import Mailroom.Proofs.Call.Writing
import Mailroom.Proofs.Http.Precedence

/-!
# The headers of a message

A message has its names in lower case. Of a name other than that of the kind of body it has one
entry: that of the request if it has the name, and else that of the configuration. In both the entry
spelled last counts. So an entry that heads the request's headers over the configuration's is found
in the message, once and under its own name (`under_messageHeaders`).
-/

namespace Mailroom

/-! ## Lower case -/

namespace Text

theorem asciiLower_asciiLower (c : Char) : asciiLower (asciiLower c) = asciiLower c := by
  by_cases hc : 'A' ≤ c ∧ c ≤ 'Z'
  · have hlow : 65 ≤ c.toNat := hc.1
    have hhigh : c.toNat ≤ 90 := hc.2
    have hletter : (Char.ofNat (c.toNat + 32)).toNat = c.toNat + 32 := by
      have hvalid : (c.toNat + 32).isValidChar := Or.inl (by omega)
      rw [Char.ofNat, dif_pos hvalid]
      rfl
    have hsmall : ¬('A' ≤ Char.ofNat (c.toNat + 32) ∧ Char.ofNat (c.toNat + 32) ≤ 'Z') := by
      rintro ⟨-, h⟩
      have hle : (Char.ofNat (c.toNat + 32)).toNat ≤ 90 := h
      omega
    have hlower : asciiLower c = Char.ofNat (c.toNat + 32) := if_pos hc
    rw [hlower]
    exact if_neg hsmall
  · have hsame : asciiLower c = c := if_neg hc
    rw [hsame, hsame]

/-- A text in lower case stays as it is. -/
theorem asciiLowercase_asciiLowercase (s : String) :
    asciiLowercase (asciiLowercase s) = asciiLowercase s := by
  rw [← String.toList_inj]
  simp [asciiLowercase, String.toList_map, asciiLower_asciiLower]

end Text

namespace Wire

/-! ## The entries under a key -/

/-- The entries of a list under a key. -/
def under (key : String) (headers : List (String × String)) : List (String × String) :=
  headers.filter fun e => e.1 = key

theorem under_cons (key : String) (e : String × String) (headers : List (String × String)) :
    under key (e :: headers) = if e.1 = key then e :: under key headers else under key headers := by
  simp [under, List.filter_cons]

/-- In an ascending list there is at most one entry under a key. -/
theorem under_of_ascending {headers : Dict String} (h : headers.Ascending) (key : String) :
    under key headers = ((Dict.find? headers key).map fun value => (key, value)).toList := by
  induction headers with
  | nil => rfl
  | cons e rest ih =>
    obtain ⟨k, v⟩ := e
    rw [under_cons, Dict.find?_cons, ih (Dict.ascending_cons.mp h).2]
    by_cases hk : k = key
    · subst hk
      rw [if_pos rfl, if_pos rfl, Dict.find?_eq_none_of_ascending_cons h]
      rfl
    · rw [if_neg hk, if_neg hk]

/-- Adding an entry adds it to those under its name and to no others. -/
theorem under_addHeader_of_ne {key name : String} (h : name ≠ key) (value : String)
    (headers : List (String × String)) :
    under key (addHeader headers name value) = under key headers := by
  induction headers with
  | nil => rw [addHeader, under_cons, if_neg h]
  | cons e rest ih =>
    rw [addHeader]
    split
    · rw [under_cons, if_neg h]
    · rw [under_cons, under_cons, ih]

theorem under_addHeader_self {name : String} {headers : List (String × String)}
    (h : under name headers = []) (value : String) :
    under name (addHeader headers name value) = [(name, value)] := by
  induction headers with
  | nil => rw [addHeader, under_cons, if_pos rfl, h]
  | cons e rest ih =>
    have hparts := h
    rw [under_cons] at hparts
    split at hparts
    · cases hparts
    · next hname =>
      rw [addHeader]
      split
      · rw [under_cons, if_pos rfl, h]
      · rw [under_cons, if_neg hname, ih hparts]

/-- Filling in an entry changes something only under its name, and only where nothing is there. -/
theorem under_fillHeader (key name value : String) (headers : List (String × String)) :
    under key (fillHeader headers name value) =
      if name = key ∧ under key headers = [] then [(name, value)] else under key headers := by
  have hany : (headers.any fun e => e.1 = name) = true ↔ under name headers ≠ [] := by
    simp [under, List.filter_eq_nil_iff]
  unfold fillHeader
  by_cases hname : name = key
  · subst hname
    by_cases hnone : under name headers = []
    · rw [if_neg (fun h => hany.mp h hnone), if_pos ⟨rfl, hnone⟩, under_addHeader_self hnone]
    · rw [if_pos (hany.mpr hnone), if_neg fun h : _ ∧ _ => hnone h.2]
  · rw [if_neg fun h : _ ∧ _ => hname h.1, apply_ite (under key),
      under_addHeader_of_ne hname value headers, ite_self]

/-- Filling in entries of different keys gives a key what it would have alone, where nothing is
there. -/
theorem under_foldl_fillHeader {defaults : Dict String} (h : defaults.keys.Nodup) (key : String)
    (headers : List (String × String)) :
    under key (defaults.foldl (fun acc e => fillHeader acc e.1 e.2) headers) =
      if under key headers = [] then under key defaults else under key headers := by
  induction defaults generalizing headers with
  | nil =>
    split
    · next hnone => exact hnone
    · rfl
  | cons e rest ih =>
    have hparts := List.nodup_cons.mp h
    rw [List.foldl_cons, ih hparts.2, under_fillHeader, under_cons]
    by_cases hname : e.1 = key
    · subst hname
      have hrest : under e.1 rest = [] := by
        rw [under, List.filter_eq_nil_iff]
        intro other hother hkey
        exact hparts.1 (List.mem_map.mpr ⟨other, hother, by simpa using hkey⟩)
      by_cases hnone : under e.1 headers = [] <;> simp [hnone, hrest]
    · simp [hname]

/-! ## Names in lower case -/

/-- After storing entries under their lower-case names, the last one of a name is found. -/
theorem find?_insertAll_lowercase {entries : List (String × String)} {d : Dict String}
    {key value : String} :
    Dict.find? (Dict.insertAll d (entries.map fun e => (Text.asciiLowercase e.1, e.2))) key =
        some value ↔
      (∃ e, Header.LastOf entries e ∧ Text.asciiLowercase e.1 = key ∧ e.2 = value) ∨
      (∀ e ∈ entries, Text.asciiLowercase e.1 ≠ key) ∧ Dict.find? d key = some value := by
  induction entries generalizing d with
  | nil =>
    have hnone : ¬∃ e, Header.LastOf [] e ∧ Text.asciiLowercase e.1 = key ∧ e.2 = value := by
      rintro ⟨e, he, -⟩
      cases he
    simp [Dict.insertAll, hnone]
  | cons first rest ih =>
    change Dict.find? (Dict.insertAll (Dict.insert d (Text.asciiLowercase first.1) first.2)
      (rest.map fun e => (Text.asciiLowercase e.1, e.2))) key = some value ↔ _
    rw [ih, Dict.find?_insert, List.forall_mem_cons]
    constructor
    · rintro (⟨e, hlast, hkey, hvalue⟩ | ⟨hrest, hfound⟩)
      · exact Or.inl ⟨e, .later hlast, hkey, hvalue⟩
      · by_cases hkey : key = Text.asciiLowercase first.1
        · rw [if_pos hkey] at hfound
          refine Or.inl ⟨first, .here ?_, hkey.symm, Option.some.inj hfound⟩
          rintro ⟨e, he, hname⟩
          exact hrest e he ((Header.sameName_iff.mp hname).trans hkey.symm)
        · rw [if_neg hkey] at hfound
          exact Or.inr ⟨⟨Ne.symm hkey, hrest⟩, hfound⟩
    · rintro (⟨e, hlast, hkey, hvalue⟩ | ⟨⟨hfirst, hrest⟩, hfound⟩)
      · cases hlast with
        | here hunnamed =>
          refine Or.inr ⟨fun other hother hother' => hunnamed ⟨other, hother, ?_⟩, ?_⟩
          · exact Header.sameName_iff.mpr (hother'.trans hkey.symm)
          · rw [if_pos hkey.symm, hvalue]
        | later hlast => exact Or.inl ⟨e, hlast, hkey, hvalue⟩
      · exact Or.inr ⟨hrest, by rw [if_neg (Ne.symm hfirst), hfound]⟩

theorem ascending_lowerHeaders (headers : HeaderMap) : (lowerHeaders headers).Ascending :=
  Dict.ascending_ofList _

/-- The entry under a lower-case name is the one spelled last. -/
theorem find?_lowerHeaders_eq_some_iff {headers : HeaderMap} (h : headers.Ascending)
    {key value : String} :
    Dict.find? (lowerHeaders headers) key = some value ↔
      ∃ e, Header.LastSpelled headers e ∧ Text.asciiLowercase e.1 = key ∧ e.2 = value := by
  rw [lowerHeaders, Dict.ofList, find?_insertAll_lowercase]
  simp [Header.lastOf_iff_lastSpelled h]

/-- Nothing is under the lower-case form of a name that a map does not have. -/
theorem find?_lowerHeaders_eq_none {headers : HeaderMap} (h : headers.Ascending) {name : String}
    (hname : ¬Header.Names headers name) :
    Dict.find? (lowerHeaders headers) (Text.asciiLowercase name) = none := by
  cases hfound : Dict.find? (lowerHeaders headers) (Text.asciiLowercase name) with
  | none => rfl
  | some value =>
    obtain ⟨e, hlast, hkey, -⟩ := (find?_lowerHeaders_eq_some_iff h).mp hfound
    exact absurd ⟨e, hlast.1, Header.sameName_iff.mpr hkey⟩ hname

/-- Every name of a list is in lower case. -/
def Lowered (headers : List (String × String)) : Prop :=
  ∀ e ∈ headers, Text.asciiLowercase e.1 = e.1

theorem lowered_lowerHeaders (headers : HeaderMap) : Lowered (lowerHeaders headers) := by
  intro e he
  rcases Dict.mem_of_mem_insertAll he with hmem | hnil
  · obtain ⟨entry, -, rfl⟩ := List.mem_map.mp hmem
    exact Text.asciiLowercase_asciiLowercase entry.1
  · cases hnil

theorem Lowered.addHeader {headers : List (String × String)} (h : Lowered headers) {name : String}
    (hname : Text.asciiLowercase name = name) (value : String) :
    Lowered (addHeader headers name value) := by
  induction headers with
  | nil =>
    intro e he
    rw [List.mem_singleton.mp he]
    exact hname
  | cons first rest ih =>
    have hparts := List.forall_mem_cons.mp h
    unfold Wire.addHeader
    split
    · exact List.forall_mem_cons.mpr ⟨hname, h⟩
    · exact List.forall_mem_cons.mpr ⟨hparts.1, ih hparts.2⟩

theorem Lowered.fillHeader {headers : List (String × String)} (h : Lowered headers) {name : String}
    (hname : Text.asciiLowercase name = name) (value : String) :
    Lowered (fillHeader headers name value) := by
  unfold Wire.fillHeader
  split
  · exact h
  · exact h.addHeader hname value

theorem Lowered.foldl_fillHeader {headers defaults : List (String × String)} (h : Lowered headers)
    (hd : Lowered defaults) :
    Lowered (defaults.foldl (fun acc e => Wire.fillHeader acc e.1 e.2) headers) := by
  induction defaults generalizing headers with
  | nil => exact h
  | cons e rest ih =>
    have hparts := List.forall_mem_cons.mp hd
    exact ih (h.fillHeader hparts.1 e.2) hparts.2

/-- Among names in lower case, those that are the same as a name are its lower-case form. -/
theorem Lowered.filter_sameName {headers : List (String × String)} (h : Lowered headers)
    (name : String) :
    headers.filter (fun e => Header.sameName e.1 name) =
      under (Text.asciiLowercase name) headers := by
  refine List.filter_congr fun e he => ?_
  rw [Bool.eq_iff_iff, Header.sameName_iff, h e he, decide_eq_true_eq]

/-! ## Messages -/

theorem lowered_requestHeaders (request : Request) : Lowered (requestHeaders request) := by
  have hown := lowered_lowerHeaders request.headers
  have hkind : Text.asciiLowercase "content-type" = "content-type" := by decide +kernel
  unfold requestHeaders
  split
  · exact hown.fillHeader hkind _
  · exact hown.addHeader hkind _
  · exact hown

theorem lowered_defaultHeaders (config : Config) : Lowered (defaultHeaders config) := by
  intro e he
  rcases Dict.mem_of_mem_insertAll he with hmem | hagent
  · exact lowered_lowerHeaders _ e hmem
  · rw [List.mem_singleton.mp hagent]
    decide +kernel

/-- The names of a message are in lower case. -/
theorem lowered_messageHeaders (config : Config) (request : Request) :
    Lowered (messageHeaders config request) :=
  (lowered_requestHeaders request).foldl_fillHeader (lowered_defaultHeaders config)

theorem ascending_defaultHeaders (config : Config) : (defaultHeaders config).Ascending :=
  Dict.Ascending.insertAll (List.pairwise_singleton _ _) _

/-- The body of a request adds its kind and nothing else. -/
theorem under_requestHeaders {key : String} (hkey : key ≠ "content-type") (request : Request) :
    under key (requestHeaders request) = under key (lowerHeaders request.headers) := by
  unfold requestHeaders
  split
  · rw [under_fillHeader, if_neg fun h : _ ∧ _ => hkey h.1.symm]
  · rw [under_addHeader_of_ne (Ne.symm hkey)]
  · rfl

/-- Under a name other than that of the kind of body a message has what the request has there, and
else what the configuration has. -/
theorem under_messageHeaders {key : String} (hkey : key ≠ "content-type") (config : Config)
    (request : Request) :
    under key (messageHeaders config request) =
      (((Dict.find? (lowerHeaders request.headers) key).or
        (Dict.find? (defaultHeaders config) key)).map fun value => (key, value)).toList := by
  rw [messageHeaders, under_foldl_fillHeader (ascending_defaultHeaders config).nodup_keys,
    under_requestHeaders hkey, under_of_ascending (ascending_lowerHeaders _),
    under_of_ascending (ascending_defaultHeaders config)]
  cases Dict.find? (lowerHeaders request.headers) key <;> rfl

/-- What heads the headers of a request over those of the configuration is in the message, once. -/
theorem filter_messageHeaders {config : Config} {request : Request}
    (hr : request.headers.Ascending) (hc : config.requestHeaders.Ascending) {e : String × String}
    (he : Header.Heads [request.headers, config.requestHeaders] e)
    (hkind : Text.asciiLowercase e.1 ≠ "content-type") :
    (messageHeaders config request).filter (fun other => Header.sameName other.1 e.1) =
      [(Text.asciiLowercase e.1, e.2)] := by
  rw [(lowered_messageHeaders config request).filter_sameName, under_messageHeaders hkind]
  rcases he with hlast | ⟨hunnamed, hconfig⟩
  · rw [(find?_lowerHeaders_eq_some_iff hr).mpr ⟨e, hlast, rfl, rfl⟩]
    rfl
  · have hdefault : Dict.find? (defaultHeaders config) (Text.asciiLowercase e.1) = some e.2 := by
      rw [defaultHeaders, Dict.find?_insertAll _ (ascending_lowerHeaders _),
        (find?_lowerHeaders_eq_some_iff hc).mpr ⟨e, Header.heads_singleton.mp hconfig, rfl, rfl⟩]
      rfl
    rw [find?_lowerHeaders_eq_none hr hunnamed, hdefault]
    rfl

end Wire

end Mailroom
