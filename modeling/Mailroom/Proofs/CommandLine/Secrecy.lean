import Mailroom.CommandLine.Language
import Mailroom.Proofs.Call.Masking
import Mailroom.Proofs.Outcome

/-!
# Command lines that differ in their token

Two command lines that are the same but for the value of the token are read in step. What is known
of the two readings apart from that value stays the same from word to word, whatever the values are,
so both lines end in the same error, or in invocations that differ in the token alone
(`agree_ofWords`).
-/

namespace Mailroom

open Outcome (Agree)

/-- The options of a run, with another token. -/
def CommonOptions.withToken (o : CommonOptions) (token : Option String) : CommonOptions :=
  { o with token := token }

namespace CommandLine

/-! ## What was given -/

/-- What is known of the values of an argument: all of them but those of the token. -/
def known (name : String) (values : List String) : List String :=
  if name = "token" then [] else values

/-- What was given, without the values of the token. -/
def Given.hidden (g : Given) : Given :=
  Dict.remap known g

/-- The same was given, but for the values of the token. -/
def Given.Alike (g g' : Given) : Prop :=
  g.hidden = g'.hidden

namespace Given.Alike

variable {g g' : Given}

theorem find?_map (h : g.Alike g') (name : String) :
    (Dict.find? g name).map (known name) = (Dict.find? g' name).map (known name) := by
  rw [← Dict.find?_remap, ← Dict.find?_remap]
  exact congrArg (Dict.find? · name) h

theorem isSome_find?_eq (h : g.Alike g') (name : String) :
    (Dict.find? g name).isSome = (Dict.find? g' name).isSome := by
  simpa only [Option.isSome_map] using congrArg Option.isSome (h.find?_map name)

theorem find?_eq (h : g.Alike g') {name : String} (hname : name ≠ "token") :
    Dict.find? g name = Dict.find? g' name := by
  have hknown : known name = id := funext fun values => if_neg hname
  simpa only [hknown, Option.map_id, id] using h.find?_map name

theorem has_eq (h : g.Alike g') (name : String) : g.has name = g'.has name :=
  h.isSome_find?_eq name

theorem isEmpty_eq (h : g.Alike g') : List.isEmpty g = List.isEmpty g' := by
  have hlength := congrArg List.isEmpty h
  simpa only [Given.hidden, Dict.remap, List.isEmpty_map] using hlength

theorem insert_same (h : g.Alike g') (name : String) (values : List String) :
    Given.Alike (Dict.insert g name values) (Dict.insert g' name values) := by
  rw [Alike, hidden, hidden, Dict.remap_insert, Dict.remap_insert]
  exact congrArg (Dict.insert · name _) h

theorem insert_token (h : g.Alike g') (values values' : List String) :
    Given.Alike (Dict.insert g "token" values) (Dict.insert g' "token" values') := by
  rw [Alike, hidden, hidden, Dict.remap_insert, Dict.remap_insert]
  exact congrArg (Dict.insert · "token" []) h

theorem insertAll {found found' : Given} (hfound : found.Alike found') (h : g.Alike g') :
    Given.Alike (Dict.insertAll found g) (Dict.insertAll found' g') := by
  rw [Alike, hidden, hidden, Dict.remap_insertAll, Dict.remap_insertAll]
  exact congrArg₂ Dict.insertAll hfound h

end Given.Alike

/-! ## One level -/

/-- The argument that gives the token. -/
def tokenArgument : Argument :=
  .option "token" "token" .text

/-- What waits to be stored is the same, or it is values of the token. -/
inductive PendingAlike :
    Option (Argument × List String) → Option (Argument × List String) → Prop where
  | same (pending : Option (Argument × List String)) : PendingAlike pending pending
  | token {values values' : List String} (count : values.isEmpty = values'.isEmpty) :
      PendingAlike (some (tokenArgument, values)) (some (tokenArgument, values'))

/-- Two levels are read in step: but for the values of the token they are the same, and both take
options still, or none does. -/
structure Progress.Alike (trailing : Bool) (p p' : Progress) : Prop where
  given : p.given.Alike p'.given
  pending : PendingAlike p.pending p'.pending
  place : p.place = p'.place
  left : p.trailing = trailing
  right : p'.trailing = trailing

namespace Progress

variable {g g' : Given}

/-- The same values of an argument are stored, or refused, in step. -/
theorem agree_store (h : g.Alike g') (a : Argument) (values : List String) :
    Agree Given.Alike (store g a values) (store g' a values) := by
  unfold store
  simp only [h.isSome_find?_eq a.name]
  split
  · exact .error _
  split
  · exact .error _
  split
  · exact .error _
  · refine .ok ?_
    by_cases hname : a.name = "token"
    · rw [hname]
      exact h.insert_token _ _
    · rw [h.find?_eq hname]
      exact h.insert_same _ _

/-- Any text can be stored for the token, once. -/
theorem store_token (g : Given) (values : List String) :
    store g tokenArgument values =
      if values.isEmpty then .error .invalidValue
      else if (Dict.find? g "token").isSome then .error .conflict
      else .ok (Dict.insert g "token" ((Dict.find? g "token").getD [] ++ values)) := by
  have hfault : (tokenArgument.separated values).findSome? tokenArgument.form.fault? = none :=
    List.findSome?_eq_none_iff.mpr fun _ _ => rfl
  unfold store
  simp only [hfault]
  rfl

/-- Values of the token are stored, or refused, in step, whatever they are. -/
theorem agree_store_token (h : g.Alike g') {values values' : List String}
    (count : values.isEmpty = values'.isEmpty) :
    Agree Given.Alike (store g tokenArgument values) (store g' tokenArgument values') := by
  rw [store_token, store_token, count, h.isSome_find?_eq]
  split
  · exact .error _
  split
  · exact .error _
  · exact .ok (h.insert_token _ _)

variable {trailing : Bool} {p p' : Progress}

theorem agree_settled (h : Alike trailing p p') :
    Agree (Alike trailing) p.settled p'.settled := by
  obtain ⟨given, pending, place, takesOptions⟩ := p
  obtain ⟨given', pending', place', takesOptions'⟩ := p'
  obtain ⟨hgiven, hpending, hplace, hleft, hright⟩ := h
  cases hpending with
  | same =>
    cases pending with
    | none => exact .ok ⟨hgiven, .same none, hplace, hleft, hright⟩
    | some e =>
      exact (agree_store hgiven e.1 e.2).map fun _ _ hstored =>
        ⟨hstored, .same none, hplace, hleft, hright⟩
  | token count =>
    exact (agree_store_token hgiven count).map fun _ _ hstored =>
      ⟨hstored, .same none, hplace, hleft, hright⟩

/-- An argument that is met together with its values is met in step if they are stored in step. -/
theorem agree_complete_of_store (h : Alike trailing p p') (title : String) {a : Argument}
    {values values' : List String}
    (hstore : ∀ {g g' : Given}, g.Alike g' → Agree Given.Alike (store g a values)
      (store g' a values')) :
    Agree (Alike trailing) (p.complete title a values) (p'.complete title a values') := by
  have hsettled := agree_settled h
  unfold complete
  generalize p.settled = x at hsettled
  generalize p'.settled = x' at hsettled
  cases hsettled with
  | error e => exact .error e
  | @ok q q' hq =>
    have hkept : Agree (Alike trailing)
        ((store q.given a values).map fun given => { q with given := given })
        ((store q'.given a values').map fun given => { q' with given := given }) :=
      (hstore hq.given).map fun _ _ hstored =>
        ⟨hstored, hq.pending, hq.place, hq.left, hq.right⟩
    cases a.role with
    | showHelp => exact .error _
    | showVersion => exact .error _
    | _ => exact hkept

theorem agree_complete (h : Alike trailing p p') (title : String) (a : Argument)
    (values : List String) :
    Agree (Alike trailing) (p.complete title a values) (p'.complete title a values) :=
  agree_complete_of_store h title fun hg => agree_store hg a values

theorem agree_awaitValue (h : Alike trailing p p') (a : Argument) :
    Agree (fun q q' => Alike trailing q q' ∧ q.pending = some (a, []) ∧
      q'.pending = some (a, [])) (p.awaitValue a) (p'.awaitValue a) :=
  (agree_settled h).map fun _ _ hq =>
    ⟨⟨hq.given, .same _, hq.place, hq.left, hq.right⟩, rfl, rfl⟩

theorem agree_long (h : Alike trailing p p') (scope : Scope) (name : String)
    (value : Option String) :
    Agree (Alike trailing) (p.long scope name value) (p'.long scope name value) := by
  unfold long
  split
  · exact .error _
  split
  · split
    · exact agree_complete h _ _ _
    · exact .error _
  · split
    · exact (agree_awaitValue h _).mono fun _ _ hq => hq.1
    · exact agree_complete h _ _ _

theorem agree_shorts (h : Alike trailing p p') (scope : Scope) (names : List Char) :
    Agree (Alike trailing) (p.shorts scope names) (p'.shorts scope names) := by
  induction names generalizing p p' with
  | nil => exact .ok h
  | cons c rest ih =>
    unfold shorts
    split
    · exact .error _
    split
    · split
      · exact (agree_awaitValue h _).mono fun _ _ hq => hq.1
      · exact agree_complete h _ _ _
      · exact agree_complete h _ _ _
    · exact (agree_complete h _ _ _).bind fun _ _ hq => ih hq

/-- Two words are taken as values of the token in step, whatever they are. -/
theorem Alike.take_token {values values' : List String} {q q' : Progress}
    (h : Alike trailing q q') (hleft : q.pending = some (tokenArgument, values))
    (hright : q'.pending = some (tokenArgument, values')) (word word' : String) :
    Alike trailing (q.take word) (q'.take word') := by
  have hcount : (values ++ [word]).isEmpty = (values' ++ [word']).isEmpty := by
    cases values <;> cases values' <;> rfl
  refine ⟨h.given, ?_, h.place, h.left, h.right⟩
  simp only [Progress.take, hleft, hright]
  exact .token hcount

theorem Alike.take (h : Alike trailing p p') (word : String) :
    Alike trailing (p.take word) (p'.take word) := by
  obtain ⟨given, pending, place, takesOptions⟩ := p
  obtain ⟨given', pending', place', takesOptions'⟩ := p'
  obtain ⟨hgiven, hpending, hplace, hleft, hright⟩ := h
  cases hpending with
  | same => exact ⟨hgiven, .same _, hplace, hleft, hright⟩
  | token count =>
    exact take_token ⟨hgiven, .token count, hplace, hleft, hright⟩ rfl rfl word word

theorem Alike.isWaiting_eq (h : Alike trailing p p') : p.isWaiting = p'.isWaiting := by
  obtain ⟨given, pending, place, takesOptions⟩ := p
  obtain ⟨given', pending', place', takesOptions'⟩ := p'
  cases h.pending with
  | same => rfl
  | token count => exact count

theorem Alike.isCollecting_eq (h : Alike trailing p p') (a : Argument) :
    p.isCollecting a = p'.isCollecting a := by
  obtain ⟨given, pending, place, takesOptions⟩ := p
  obtain ⟨given', pending', place', takesOptions'⟩ := p'
  cases h.pending with
  | same => rfl
  | token => rfl

theorem agree_positional (h : Alike trailing p p') (scope : Scope) (word : String) :
    Agree (Alike trailing) (p.positional scope word) (p'.positional scope word) := by
  unfold positional
  rw [h.place, h.left, h.right]
  split
  · exact .error _
  · next a _ =>
    rw [h.isCollecting_eq a]
    split
    · exact .ok (h.take word)
    · refine (agree_settled h).map fun q q' hq => ⟨hq.given, .same _, ?_, hq.left, hq.right⟩
      simp only [hq.place]

end Progress

/-! ## Scopes -/

/-- The names of a level are not those of options, and its arguments do not give the token. -/
structure Level.Distinct (l : Level) : Prop where
  names : ∀ name ∈ l.name :: l.aliases, name.toList.head? ≠ some '-'
  arguments : ∀ a ∈ l.arguments, a.long ≠ some "token"

/-- A level and all levels below it leave the token to the common arguments. -/
inductive Level.Plain : Level → Prop where
  | of {l : Level} (own : l.Distinct) (below : ∀ inner ∈ l.levels, Level.Plain inner) :
      Level.Plain l

/-- A level as it is being read: the token is the common argument and the levels below are plain. -/
structure Scope.Plain (s : Scope) : Prop where
  token : s.long? "token" = some tokenArgument
  levels : ∀ l ∈ s.levels, l.Plain

theorem level?_eq_none_of_dash {levels : List Level} (h : ∀ l ∈ levels, l.Plain) {word : String}
    (hword : word.toList.head? = some '-') : level? levels word = none := by
  rw [level?, List.find?_eq_none]
  intro l hl hnamed
  cases h l hl with
  | of own =>
    rw [Bool.or_eq_true, decide_eq_true_eq, List.contains_iff_mem] at hnamed
    have hmem : word ∈ l.name :: l.aliases := by
      rcases hnamed with rfl | hmem
      · exact List.mem_cons_self
      · exact List.mem_cons_of_mem _ hmem
    exact own.names word hmem hword

theorem Level.Plain.of_level? {levels : List Level} (h : ∀ l ∈ levels, l.Plain) {word : String}
    {l : Level} (hl : level? levels word = some l) : l.Plain :=
  h l (List.mem_of_find?_eq_some hl)

theorem Scope.plain_below (s : Scope) {l : Level} (hl : l.Plain) : (s.below common l).Plain := by
  cases hl with
  | of own inner =>
    refine ⟨?_, inner⟩
    have hown : l.arguments.find? (fun a => a.long = some "token") = none := by
      rw [List.find?_eq_none]
      intro a ha
      simpa using own.arguments a ha
    rw [Scope.long?, Scope.below, List.find?_append, hown]
    rfl

theorem Level.distinct_iff (l : Level) :
    l.Distinct ↔ (∀ name ∈ l.name :: l.aliases, name.toList.head? ≠ some '-') ∧
      ∀ a ∈ l.arguments, a.long ≠ some "token" :=
  ⟨fun h => ⟨h.names, h.arguments⟩, fun h => ⟨h.1, h.2⟩⟩

instance (l : Level) : Decidable l.Distinct :=
  decidable_of_iff' _ l.distinct_iff

/-- The levels of the program leave the token to the common arguments. -/
theorem plain_levels : ∀ l ∈ levels, l.Plain := by
  have hlevels : ∀ l ∈ levels, l.Distinct ∧
      ∀ inner ∈ l.levels, inner.Distinct ∧ inner.levels.isEmpty = true := by
    decide +kernel
  intro l hl
  obtain ⟨hown, hbelow⟩ := hlevels l hl
  refine .of hown fun inner hinner => ?_
  obtain ⟨hleaf, hnone⟩ := hbelow inner hinner
  refine .of hleaf fun other hother => ?_
  rw [List.isEmpty_iff.mp hnone] at hother
  cases hother

/-- What is wrong with the arguments of a level depends on which ones were given alone. -/
theorem Scope.fault?_eq (s : Scope) {g g' : Given} (h : g.Alike g') (entered : Bool) :
    s.fault? g entered = s.fault? g' entered := by
  have hhas : g.has = g'.has := funext h.has_eq
  have hpresent : s.present g = s.present g' := by rw [present, present, hhas]
  have hconflict : s.hasConflict g = s.hasConflict g' := by
    rw [hasConflict, hasConflict, hpresent]
  have hmissing : s.isMissing g = s.isMissing g' := by
    funext a
    rw [isMissing, isMissing, isDemanded, isDemanded, hpresent, hhas]
  rw [fault?, fault?, h.isEmpty_eq, hconflict, hmissing]

/-! ## Words -/

/-- Two command lines are the same but for values of the token, which follow its name in one word or
are the next word; behind a separator there are no options. -/
inductive SameButToken : List String → List String → Prop where
  | same (words : List String) : SameButToken words words
  | word (word : String) (notSeparator : word ≠ "--") {words words' : List String}
      (rest : SameButToken words words') : SameButToken (word :: words) (word :: words')
  | joined (token token' : String) {words words' : List String}
      (rest : SameButToken words words') :
      SameButToken (("--token=" ++ token) :: words) (("--token=" ++ token') :: words')
  | following (token token' : String) (plain : Word.ofString token = .plain)
      (plain' : Word.ofString token' = .plain) {words words' : List String}
      (rest : SameButToken words words') :
      SameButToken ("--token" :: token :: words) ("--token" :: token' :: words')

theorem Word.ofString_joined (token : String) :
    Word.ofString ("--token=" ++ token) = .long "token" (some token) := by
  have hname : "--token=".toList = ['-', '-', 't', 'o', 'k', 'e', 'n', '='] := by decide
  rw [Word.ofString, String.toList_append, hname]
  simp

theorem Word.ofString_separator_iff {word : String} :
    Word.ofString word = .separator ↔ word = "--" := by
  constructor
  · intro h
    unfold Word.ofString at h
    split at h
    · next hword => exact String.toList_inj.mp hword
    all_goals cases h
  · rintro rfl
    rfl

theorem helpTopic_of_dash {levels : List Level} (h : ∀ l ∈ levels, l.Plain) {word : String}
    (hword : word.toList.head? = some '-') (rest : List String) :
    helpTopic levels (word :: rest) = .unknownSubcommand := by
  have hhelp : word ≠ helpName := by
    rintro rfl
    exact absurd hword (by decide)
  rw [helpTopic, if_neg (by simp [hhelp]), level?_eq_none_of_dash h hword]

/-- What asking for the help of a level leads to does not depend on the values of the token. -/
theorem helpTopic_eq {words words' : List String} (h : SameButToken words words')
    {levels : List Level} (hlevels : ∀ l ∈ levels, l.Plain) :
    helpTopic levels words = helpTopic levels words' := by
  induction h generalizing levels with
  | same => rfl
  | word word _ _ ih =>
    rw [helpTopic, helpTopic]
    split
    · exact ih (by simp)
    · split
      · next l hl =>
        cases Level.Plain.of_level? hlevels hl with
        | of _ below => exact ih below
      · rfl
  | joined token token' =>
    rw [helpTopic_of_dash hlevels (by simp), helpTopic_of_dash hlevels (by simp)]
  | following token token' =>
    rw [helpTopic_of_dash hlevels (by decide), helpTopic_of_dash hlevels (by decide)]

/-- Two words lead on in step. -/
inductive Next.Alike (scope : Scope) (trailing : Bool) : Next → Next → Prop where
  | stay {p p' : Progress} (progress : Progress.Alike trailing p p') :
      Next.Alike scope trailing (.stay p) (.stay p')
  | enter {l : Level} (level : l ∈ scope.levels) : Next.Alike scope trailing (.enter l) (.enter l)
  | topic : Next.Alike scope trailing .topic .topic

section Reading

variable {trailing : Bool} {p p' : Progress}

theorem agree_readPlain (h : Progress.Alike trailing p p') (scope : Scope) (word : String) :
    Agree (Next.Alike scope trailing) (readPlain scope p word) (readPlain scope p' word) := by
  unfold readPlain
  rw [h.isWaiting_eq]
  split
  · exact .ok (.stay (h.take word))
  split
  · next hl => exact .ok (.enter (List.mem_of_find?_eq_some hl))
  split
  · exact .ok .topic
  · exact (Progress.agree_positional h scope word).map fun _ _ hq => .stay hq

/-- A word is read in step; a separator ends the options. -/
theorem agree_readWord (h : Progress.Alike trailing p p') (scope : Scope) (word : String) :
    Agree (Next.Alike scope (trailing || word = "--")) (readWord scope p word)
      (readWord scope p' word) := by
  unfold readWord
  rw [h.left, h.right]
  cases trailing with
  | true => exact (Progress.agree_positional h scope word).map fun _ _ hq => .stay hq
  | false =>
    by_cases hword : word = "--"
    · subst hword
      exact .ok (.stay ⟨h.given, h.pending, h.place, rfl, rfl⟩)
    · rw [Bool.false_or, decide_eq_false hword]
      cases hkind : Word.ofString word with
      | separator => exact absurd (Word.ofString_separator_iff.mp hkind) hword
      | long name value =>
        exact (Progress.agree_long h scope name value).map fun _ _ hq => .stay hq
      | shorts names => exact (Progress.agree_shorts h scope names).map fun _ _ hq => .stay hq
      | plain => exact agree_readPlain h scope word

/-- The token and its name in one word are read in step, whatever the token is. -/
theorem agree_readWord_joined (h : Progress.Alike false p p') {scope : Scope} (hs : scope.Plain)
    (token token' : String) :
    Agree (Next.Alike scope false) (readWord scope p ("--token=" ++ token))
      (readWord scope p' ("--token=" ++ token')) := by
  have hread : ∀ {q : Progress}, q.trailing = false → ∀ text : String,
      readWord scope q ("--token=" ++ text) =
        (q.complete scope.title tokenArgument [text]).map .stay := by
    intro q hq text
    rw [readWord, hq, Word.ofString_joined]
    simp only [Progress.long, hs.token]
    rfl
  rw [hread h.left, hread h.right]
  have hcomplete : Agree (Progress.Alike false) (p.complete scope.title tokenArgument [token])
      (p'.complete scope.title tokenArgument [token']) :=
    Progress.agree_complete_of_store h scope.title fun hg => Progress.agree_store_token hg rfl
  exact hcomplete.map fun _ _ hq => .stay hq

/-- The name of the token waits for it. -/
theorem readWord_tokenName {scope : Scope} (hs : scope.Plain) (hp : p.trailing = false) :
    readWord scope p "--token" = (p.awaitValue tokenArgument).map .stay := by
  have hkind : Word.ofString "--token" = .long "token" none := rfl
  rw [readWord, hp, hkind]
  simp only [Progress.long, hs.token]
  rfl

/-- A word that is no option is the value of an option that waits for one. -/
theorem readWord_value (scope : Scope) {a : Argument} {word : String}
    (hword : Word.ofString word = .plain) (hp : p.trailing = false)
    (hwaits : p.pending = some (a, [])) :
    readWord scope p word = .ok (.stay (p.take word)) := by
  have hwaiting : p.isWaiting = true := by
    rw [Progress.isWaiting, hwaits]
    rfl
  rw [readWord, hp, hword]
  exact if_pos hwaiting

/-- Levels that were left are the same but for the values of the token. -/
def Outer.Alike (o o' : Outer) : Prop :=
  o.scope = o'.scope ∧ ∃ trailing, Progress.Alike trailing o.progress o'.progress

theorem agree_finish (h : Progress.Alike trailing p p') (scope : Scope) (entered : Bool) :
    Agree Given.Alike (finish scope p entered) (finish scope p' entered) := by
  have hsettled := Progress.agree_settled h
  unfold finish
  generalize p.settled = x at hsettled
  generalize p'.settled = x' at hsettled
  cases hsettled with
  | error e => exact .error e
  | @ok q q' hq =>
    simp only [scope.fault?_eq hq.given]
    split
    · exact .error _
    · exact .ok hq.given

theorem agree_finishOuter {outer outer' : List Outer}
    (houter : List.Forall₂ Outer.Alike outer outer') {g g' : Given} (h : g.Alike g') :
    Agree Given.Alike (finishOuter g outer) (finishOuter g' outer') := by
  induction houter generalizing g g' with
  | nil => exact .ok h
  | @cons o o' rest rest' ho _ ih =>
    obtain ⟨hscope, trailing, hprogress⟩ := ho
    have hfinish := agree_finish hprogress o'.scope true
    unfold finishOuter
    rw [hscope]
    generalize finish o'.scope o.progress true = x at hfinish
    generalize finish o'.scope o'.progress true = x' at hfinish
    cases hfinish with
    | error e => exact .error e
    | ok hfound => exact ih (hfound.insertAll h)

/-- Two readings lead to the same level, and but for the values of the token the same was given. -/
structure Reading.Alike (r r' : Reading) : Prop where
  path : r.path = r'.path
  given : r.given.Alike r'.given

section Words

variable {path : List String} {outer outer' : List Outer} {scope : Scope}

/-- Readings go on in step from words that are read in step. -/
theorem agree_readWords_cons {word word' : String} {rest rest' : List String}
    (hnext : Agree (Next.Alike scope trailing) (readWord scope p word) (readWord scope p' word'))
    (stay : ∀ {q q' : Progress}, Progress.Alike trailing q q' →
      Agree Reading.Alike (readWords common path outer scope q rest)
        (readWords common path outer' scope q' rest'))
    (enter : ∀ {l : Level}, l ∈ scope.levels →
      Agree Reading.Alike
        (readWords common (path ++ [l.name]) (⟨scope, p⟩ :: outer) (scope.below common l) .start
          rest)
        (readWords common (path ++ [l.name]) (⟨scope, p'⟩ :: outer') (scope.below common l) .start
          rest'))
    (topic : helpTopic scope.levels rest = helpTopic scope.levels rest') :
    Agree Reading.Alike (readWords common path outer scope p (word :: rest))
      (readWords common path outer' scope p' (word' :: rest')) := by
  rw [readWords, readWords]
  generalize readWord scope p word = x at hnext
  generalize readWord scope p' word' = x' at hnext
  cases hnext with
  | error e => exact .error e
  | ok related =>
    cases related with
    | stay progress => exact stay progress
    | enter level => exact enter level
    | topic =>
      simp only [topic]
      exact .error _

theorem Progress.alike_start : Progress.Alike false start start :=
  ⟨rfl, .same none, rfl, rfl, rfl⟩

/-- The same words are read in step on levels that are the same but for the values of the token. -/
theorem agree_readWords_same (houter : List.Forall₂ Outer.Alike outer outer')
    (h : Progress.Alike trailing p p') (words : List String) :
    Agree Reading.Alike (readWords common path outer scope p words)
      (readWords common path outer' scope p' words) := by
  induction words generalizing path outer outer' scope trailing p p' with
  | nil =>
    have hfinish := agree_finish h scope false
    unfold readWords
    generalize finish scope p false = x at hfinish
    generalize finish scope p' false = x' at hfinish
    cases hfinish with
    | error e => exact .error e
    | ok hgiven => exact (agree_finishOuter houter hgiven).map fun _ _ hg => ⟨rfl, hg⟩
  | cons word rest ih =>
    have hentered : List.Forall₂ Outer.Alike (⟨scope, p⟩ :: outer) (⟨scope, p'⟩ :: outer') :=
      .cons ⟨rfl, trailing, h⟩ houter
    exact agree_readWords_cons (agree_readWord h scope word) (fun hq => ih houter hq)
      (fun _ => ih hentered Progress.alike_start) rfl

/-- Words that are the same but for values of the token are read in step. -/
theorem agree_readWords {words words' : List String} (hwords : SameButToken words words')
    (houter : List.Forall₂ Outer.Alike outer outer') (hscope : scope.Plain)
    (h : Progress.Alike false p p') :
    Agree Reading.Alike (readWords common path outer scope p words)
      (readWords common path outer' scope p' words') := by
  induction hwords generalizing path outer outer' scope p p' with
  | same words => exact agree_readWords_same houter h words
  | word word notSeparator rest ih =>
    have hnext := agree_readWord h scope word
    rw [Bool.false_or, decide_eq_false notSeparator] at hnext
    exact agree_readWords_cons hnext (fun hq => ih houter hscope hq)
      (fun hl => ih (.cons ⟨rfl, false, h⟩ houter) (scope.plain_below (hscope.levels _ hl))
        Progress.alike_start)
      (helpTopic_eq rest hscope.levels)
  | joined token token' rest ih =>
    exact agree_readWords_cons (agree_readWord_joined h hscope token token')
      (fun hq => ih houter hscope hq)
      (fun hl => ih (.cons ⟨rfl, false, h⟩ houter) (scope.plain_below (hscope.levels _ hl))
        Progress.alike_start)
      (helpTopic_eq rest hscope.levels)
  | following token token' plain plain' rest ih =>
    have hwait := Progress.agree_awaitValue h tokenArgument
    rw [readWords, readWords, readWord_tokenName hscope h.left, readWord_tokenName hscope h.right]
    generalize p.awaitValue tokenArgument = x at hwait
    generalize p'.awaitValue tokenArgument = x' at hwait
    cases hwait with
    | error e => exact .error e
    | @ok q q' hq =>
      obtain ⟨hq, hleft, hright⟩ := hq
      have htaken := hq.take_token hleft hright token token'
      change Agree Reading.Alike (readWords common path outer scope q (token :: _))
        (readWords common path outer' scope q' (token' :: _))
      rw [readWords, readWords, readWord_value scope plain hq.left hleft,
        readWord_value scope plain' hq.right hright]
      exact ih houter hscope htaken

end Words

end Reading

/-! ## Commands -/

namespace Given.Alike

variable {g g' : Given}

theorem texts_eq (h : g.Alike g') {name : String} (hname : name ≠ "token") :
    g.texts name = g'.texts name := by
  rw [texts, texts, h.find?_eq hname]

theorem text?_eq (h : g.Alike g') {name : String} (hname : name ≠ "token") :
    g.text? name = g'.text? name := by
  rw [text?, text?, h.texts_eq hname]

theorem number?_eq (h : g.Alike g') {name : String} (hname : name ≠ "token") :
    g.number? name = g'.number? name := by
  rw [number?, number?, h.text?_eq hname]

theorem numbers_eq (h : g.Alike g') {name : String} (hname : name ≠ "token") :
    g.numbers name = g'.numbers name := by
  rw [numbers, numbers, h.texts_eq hname]

end Given.Alike

section Commands

variable {g g' : Given} (h : g.Alike g')
include h

theorem bodyOf_eq : bodyOf g = bodyOf g' := by
  simp (disch := decide) only [bodyOf, h.texts_eq, h.text?_eq]

theorem pageOf_eq : pageOf g = pageOf g' := by
  simp (disch := decide) only [pageOf, h.texts_eq, h.text?_eq, h.number?_eq]

theorem selectionOf_eq : selectionOf g = selectionOf g' := by
  simp (disch := decide) only [selectionOf, h.text?_eq, h.numbers_eq]

theorem importParamsOf_eq : importParamsOf g = importParamsOf g' := by
  simp (disch := decide) only [importParamsOf, modeOf, h.text?_eq, h.numbers_eq, h.has_eq]

theorem messageOf_eq (id : UInt64) : messageOf g id = messageOf g' id := by
  simp (disch := decide) only [messageOf, h.text?_eq, h.number?_eq, h.texts_eq, bodyOf_eq h]

theorem recordCommandOf?_eq (r : Resource) (name : String) :
    recordCommandOf? r name g = recordCommandOf? r name g' := by
  unfold recordCommandOf?
  simp (disch := decide) only [pageOf_eq h, bodyOf_eq h, h.number?_eq]

theorem serverCommandOf?_eq (groupName name : String) :
    serverCommandOf? groupName name g = serverCommandOf? groupName name g' := by
  unfold serverCommandOf? subscriberCommandOf? campaignCommandOf? bounceCommandOf?
    importCommandOf? settingCommandOf? systemCommandOf?
  simp (disch := decide) only [pageOf_eq h, bodyOf_eq h, selectionOf_eq h, importParamsOf_eq h,
    messageOf_eq h, recordCommandOf?_eq h, h.texts_eq, h.text?_eq, h.number?_eq, h.numbers_eq,
    h.has_eq]

end Commands

theorem commandOf?_eq {r r' : Reading} (h : r.Alike r') : commandOf? r = commandOf? r' := by
  unfold commandOf?
  rw [h.path]
  split
  · rfl
  · rw [h.given.text?_eq (by decide)]
  · rw [serverCommandOf?_eq h.given]
  · rfl

theorem withToken_commonOf {g g' : Given} (h : g.Alike g') :
    (commonOf g).withToken none = (commonOf g').withToken none := by
  simp (disch := decide) only [CommonOptions.withToken, commonOf, h.texts_eq, h.text?_eq,
    h.number?_eq, h.has_eq]

end CommandLine

/-- Two invocations are the same but for the token. -/
structure Invocation.SameButToken (i i' : Invocation) : Prop where
  common : i.common.withToken none = i'.common.withToken none
  command : i.command = i'.command

/-- Command lines that are the same but for values of the token end in the same error, or stand for
invocations that are the same but for the token. -/
theorem Invocation.agree_ofWords {words words' : List String}
    (h : CommandLine.SameButToken words words') :
    Agree Invocation.SameButToken (ofWords words) (ofWords words') := by
  have hread : Agree CommandLine.Reading.Alike
      (CommandLine.read appName CommandLine.common CommandLine.levels words)
      (CommandLine.read appName CommandLine.common CommandLine.levels words') :=
    CommandLine.agree_readWords h .nil ⟨rfl, CommandLine.plain_levels⟩
      CommandLine.Progress.alike_start
  unfold ofWords
  generalize CommandLine.read appName _ _ words = x at hread
  generalize CommandLine.read appName _ _ words' = x' at hread
  cases hread with
  | error e => exact .error e
  | ok hreading =>
    simp only [CommandLine.commandOf?_eq hreading]
    split
    · exact .ok ⟨CommandLine.withToken_commonOf hreading.given, rfl⟩
    · exact .error _

end Mailroom
