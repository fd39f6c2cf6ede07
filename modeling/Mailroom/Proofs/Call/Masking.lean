import Mailroom.Proofs.Call.Delivery
import Mailroom.Proofs.Config.Validity

/-!
# Headers without their credentials

Merging headers, putting their names in lower case and filling in what is missing look at names and
never at values. So they commute with every function that replaces values in place (`Dict.remap`).
One such function leaves the credentials out. What a message is without its credentials does not
depend on the token of the configuration that it was written with (`writesAlike_withToken`).
-/

namespace Mailroom

namespace Dict

variable {α β : Type}

/-- Every value replaced in place by what becomes of it under its key. -/
def remap (f : String → α → β) (d : Dict α) : Dict β :=
  d.map fun e => (e.1, f e.1 e.2)

theorem find?_remap (f : String → α → β) (d : Dict α) (key : String) :
    find? (remap f d) key = (find? d key).map (f key) := by
  induction d with
  | nil => rfl
  | cons e rest ih =>
    obtain ⟨k, v⟩ := e
    have hcons : remap f ((k, v) :: rest) = (k, f k v) :: remap f rest := rfl
    rw [hcons, find?_cons, find?_cons, ih]
    by_cases hk : k = key
    · subst hk
      rw [if_pos rfl, if_pos rfl]
      rfl
    · rw [if_neg hk, if_neg hk]

theorem remap_insert (f : String → α → β) (d : Dict α) (key : String) (value : α) :
    remap f (insert d key value) = insert (remap f d) key (f key value) := by
  induction d with
  | nil => rfl
  | cons e rest ih =>
    obtain ⟨k, v⟩ := e
    have hcons : remap f ((k, v) :: rest) = (k, f k v) :: remap f rest := rfl
    rw [hcons, insert, insert]
    split
    · rfl
    · split
      · rfl
      · rw [← ih]
        rfl

theorem remap_insertAll (f : String → α → β) (d : Dict α) (entries : List (String × α)) :
    remap f (insertAll d entries) = insertAll (remap f d) (remap f entries) := by
  induction entries generalizing d with
  | nil => rfl
  | cons e rest ih =>
    change remap f (insertAll (insert d e.1 e.2) rest) =
      insertAll (insert (remap f d) e.1 (f e.1 e.2)) (remap f rest)
    rw [ih, remap_insert]

end Dict

namespace Header

variable (f : String → String → String)

theorem remap_put (headers : HeaderMap) (name value : String) :
    Dict.remap f (put headers name value) = put (Dict.remap f headers) name (f name value) := by
  rw [put, put, Dict.remap_insert, Dict.remap, Dict.remap, List.filter_map]
  rfl

theorem remap_merge (headers : HeaderMap) (layer : List (String × String)) :
    Dict.remap f (merge headers layer) = merge (Dict.remap f headers) (Dict.remap f layer) := by
  induction layer generalizing headers with
  | nil => rfl
  | cons e rest ih =>
    change Dict.remap f (merge (put headers e.1 e.2) rest) =
      merge (put (Dict.remap f headers) e.1 (f e.1 e.2)) (Dict.remap f rest)
    rw [ih, remap_put]

/-- Whether headers can be sent does not change where no value becomes legal or illegal. -/
theorem firstIllegal?_remap (hf : ∀ name value, isLegalValue (f name value) = isLegalValue value)
    (headers : HeaderMap) : firstIllegal? (Dict.remap f headers) = firstIllegal? headers := by
  have hentry : ∀ name value, illegal? name (f name value) = illegal? name value := by
    intro name value
    rw [illegal?, illegal?, hf]
  rw [firstIllegal?, firstIllegal?, Dict.remap, List.findSome?_map]
  exact congrArg (List.findSome? · headers) (funext fun e => hentry e.1 e.2)

end Header

namespace Wire

variable {f : String → String → String}

theorem remap_lowerHeaders (hf : ∀ name value, f (Text.asciiLowercase name) value = f name value)
    (headers : HeaderMap) :
    Dict.remap f (lowerHeaders headers) = lowerHeaders (Dict.remap f headers) := by
  rw [lowerHeaders, lowerHeaders, Dict.ofList, Dict.remap_insertAll, Dict.ofList]
  refine congrArg (Dict.insertAll []) ?_
  rw [Dict.remap, Dict.remap, List.map_map, List.map_map]
  exact List.map_congr_left fun e _ => congrArg (Prod.mk _) (hf e.1 e.2)

theorem remap_addHeader (headers : List (String × String)) (name value : String) :
    Dict.remap f (addHeader headers name value) =
      addHeader (Dict.remap f headers) name (f name value) := by
  induction headers with
  | nil => rfl
  | cons e rest ih =>
    have hcons : Dict.remap f (e :: rest) = (e.1, f e.1 e.2) :: Dict.remap f rest := rfl
    rw [hcons, addHeader, addHeader]
    split
    · rfl
    · rw [← ih]
      rfl

theorem remap_fillHeader (headers : List (String × String)) (name value : String) :
    Dict.remap f (fillHeader headers name value) =
      fillHeader (Dict.remap f headers) name (f name value) := by
  have hany : (Dict.remap f headers).any (fun e => e.1 = name) =
      headers.any fun e => e.1 = name := by
    rw [Dict.remap, List.any_map]
    rfl
  rw [fillHeader, fillHeader, hany, apply_ite (Dict.remap f), remap_addHeader]

theorem remap_foldl_fillHeader (headers defaults : List (String × String)) :
    Dict.remap f (defaults.foldl (fun acc e => fillHeader acc e.1 e.2) headers) =
      (Dict.remap f defaults).foldl (fun acc e => fillHeader acc e.1 e.2)
        (Dict.remap f headers) := by
  induction defaults generalizing headers with
  | nil => rfl
  | cons e rest ih =>
    change Dict.remap f (rest.foldl _ (fillHeader headers e.1 e.2)) =
      (Dict.remap f rest).foldl _ (fillHeader (Dict.remap f headers) e.1 (f e.1 e.2))
    rw [ih, remap_fillHeader]

end Wire

/-! ## Messages without their credentials -/

/-- A configuration with another token. -/
def Config.withToken (c : Config) (token : String) : Config :=
  { c with token := token }

/-- A function that gives the same for two tokens gives the same headers for them. -/
theorem Config.remap_requestHeaders {f : String → String → String} {c : Config}
    {token token' : String} (hf : f "Authorization" (c.withToken token).authorization =
      f "Authorization" (c.withToken token').authorization) :
    Dict.remap f (c.withToken token).requestHeaders =
      Dict.remap f (c.withToken token').requestHeaders := by
  rw [requestHeaders, requestHeaders, Header.remap_merge, Header.remap_merge,
    ofList_standardHeaders, ofList_standardHeaders]
  simp only [Dict.remap, List.map_cons, hf]
  rfl

namespace Wire

/-- What a function leaves of a message is decided by what it leaves of the configured headers. -/
theorem remap_messageHeaders {f : String → String → String}
    (hf : ∀ name value, f (Text.asciiLowercase name) value = f name value) {config config' : Config}
    (h : Dict.remap f config.requestHeaders = Dict.remap f config'.requestHeaders)
    (request : Request) :
    Dict.remap f (messageHeaders config request) =
      Dict.remap f (messageHeaders config' request) := by
  have hdefaults :
      Dict.remap f (defaultHeaders config) = Dict.remap f (defaultHeaders config') := by
    rw [defaultHeaders, defaultHeaders, Dict.remap_insertAll, Dict.remap_insertAll,
      remap_lowerHeaders hf, remap_lowerHeaders hf, h]
  rw [messageHeaders, messageHeaders, remap_foldl_fillHeader, remap_foldl_fillHeader, hdefaults]

/-- What is known of a header: all of it but the value of the credentials. -/
def known (name value : String) : String :=
  if Header.sameName name "authorization" then "" else value

theorem known_asciiLowercase (name value : String) :
    known (Text.asciiLowercase name) value = known name value := by
  have hsame : Header.sameName (Text.asciiLowercase name) name = true :=
    Header.sameName_iff.mpr (Text.asciiLowercase_asciiLowercase name)
  rw [known, known, Header.sameName_congr hsame]

/-- A message without its credentials. -/
def Message.masked (m : Message) : Message :=
  { m with headers := Dict.remap known m.headers }

/-- With two configurations the same is written, but for the credentials. -/
def WritesAlike (config config' : Config) : Prop :=
  ∀ request, (encode config request).map Message.masked =
    (encode config' request).map Message.masked

/-- What is known of a message does not depend on the token. -/
theorem writesAlike_withToken (config : Config) (token token' : String) :
    WritesAlike (config.withToken token) (config.withToken token') := by
  intro request
  have hname : Header.sameName "Authorization" "authorization" = true := by
    rw [Header.sameName_eq_toList]
    decide
  have hconfig : Dict.remap known (config.withToken token).requestHeaders =
      Dict.remap known (config.withToken token').requestHeaders :=
    Config.remap_requestHeaders (by rw [known, known, hname]; rfl)
  have hheaders := remap_messageHeaders known_asciiLowercase hconfig request
  unfold encode
  cases Header.firstIllegal? request.headers with
  | some e => rfl
  | none =>
    cases illegalBody? request.body with
    | some e => rfl
    | none => simp only [Except.map, Message.masked, hheaders]

end Wire

end Mailroom
