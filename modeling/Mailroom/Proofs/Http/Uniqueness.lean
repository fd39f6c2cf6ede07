import Mathlib.Data.List.Basic
import Mailroom.Proofs.Config.Validity

/-!
# One entry a name

A header map is ordered by exact spellings, yet it never has two spellings of one name, however many
layers are laid over it. Layers laid over nothing one after the other come to the same map as their
entries in one row (`stacked_eq_merge`), so what stays of a name is its last entry in that row. The
headers of every request are such a stack: what is sent as standard, and the configured headers over
it.
-/

namespace Mailroom

namespace Header

/-- The map that comes of layers laid over nothing, one after the other. -/
def stacked (layers : List (List (String × String))) : HeaderMap :=
  layers.foldl merge []

/-- Layers come to what their entries come to in one row. -/
theorem stacked_eq_merge (layers : List (List (String × String))) :
    stacked layers = merge [] layers.flatten :=
  List.foldl_flatten.symm

/-- A further layer is laid over what the layers before it came to. -/
theorem stacked_concat (layers : List (List (String × String))) (layer : List (String × String)) :
    stacked (layers ++ [layer]) = merge (stacked layers) layer := by
  rw [stacked, List.foldl_append]
  rfl

/-- No two entries of a stack have the same name. -/
theorem distinct_stacked (layers : List (List (String × String))) : Distinct (stacked layers) := by
  rw [stacked_eq_merge]
  exact distinct_nil.merge _

/-- The entries of a stack are the last ones of their names. -/
theorem mem_stacked_iff {layers : List (List (String × String))} {e : String × String} :
    e ∈ stacked layers ↔ LastOf layers.flatten e := by
  rw [stacked_eq_merge, mem_merge_iff]
  simp

/-- A name that some layer has stands in the stack once, with the last entry of the name. -/
theorem exists_filter_stacked {layers : List (List (String × String))} {name : String}
    (h : Names layers.flatten name) :
    ∃ e, LastOf layers.flatten e ∧ sameName e.1 name = true ∧
      (stacked layers).filter (fun other => sameName other.1 name) = [e] := by
  rw [stacked_eq_merge]
  exact exists_filter_merge h []

end Header

namespace Config

/-- The headers of every request are the configured ones, laid over the standard ones. -/
theorem requestHeaders_eq_stacked (c : Config) :
    c.requestHeaders = Header.stacked
      [[("Content-Type", "application/json"), ("Authorization", c.authorization)], c.headers] := by
  have hstandard : Header.merge []
      [("Content-Type", "application/json"), ("Authorization", c.authorization)] =
        Dict.ofList [("Content-Type", "application/json"), ("Authorization", c.authorization)] := by
    simp [Header.merge, Header.put, sameName_standardHeaders, Dict.ofList, Dict.insertAll,
      Dict.insert]
  rw [requestHeaders, ← hstandard]
  rfl

/-- A standard header is sent once, as the configuration has it last in any spelling, or else as it
is. -/
theorem exists_filter_requestHeaders (c : Config) {standard : String × String}
    (h : standard ∈
      [("Content-Type", "application/json"), ("Authorization", c.authorization)]) :
    ∃ e, c.requestHeaders.filter (fun other => Header.sameName other.1 standard.1) = [e] ∧
      (Header.LastOf c.headers e ∨ ¬Header.Names c.headers standard.1 ∧ e = standard) := by
  have hnamed : Header.Names [[("Content-Type", "application/json"),
      ("Authorization", c.authorization)], c.headers].flatten standard.1 :=
    ⟨standard, List.mem_append_left _ h, Header.sameName_refl _⟩
  obtain ⟨e, -, hname, hfilter⟩ := Header.exists_filter_stacked hnamed
  rw [← requestHeaders_eq_stacked] at hfilter
  refine ⟨e, hfilter, ?_⟩
  have he : e ∈ c.requestHeaders := List.mem_of_mem_filter (hfilter ▸ List.mem_singleton_self e)
  rw [requestHeaders, Header.mem_merge_iff, ofList_standardHeaders] at he
  rcases he with hlast | ⟨hmem, hunnamed⟩
  · exact Or.inl hlast
  · refine Or.inr ⟨fun hnames => hunnamed ((Header.Names.congr hname).mpr hnames), ?_⟩
    have hapart := sameName_standardHeaders
    have hapart' := (Header.sameName_comm _ _).trans hapart
    rcases List.mem_pair.mp hmem with rfl | rfl <;> rcases List.mem_pair.mp h with rfl | rfl
    · exact absurd hname (by simp [hapart'])
    · rfl
    · rfl
    · exact absurd hname (by simp [hapart])

end Config

namespace Header

/--
After any number of layers no two names of the map are the same but for their case. Each name of a
layer so far has exactly one entry, spelled and valued as its last one over all the layers in order,
and nothing else is in the map. A further layer leaves every name alone that it does not have. So in
the headers of every request, whatever the configuration has, no name occurs twice, and the kind of
body and the credentials occur once each, as the configuration has them last or else as standard.
-/
theorem one_entry_of_layers :
    (∀ layers : List (List (String × String)), Distinct (stacked layers) ∧
      (∀ name, Names layers.flatten name → ∃ e, LastOf layers.flatten e ∧
        sameName e.1 name = true ∧
        (stacked layers).filter (fun other => sameName other.1 name) = [e]) ∧
      (∀ e ∈ stacked layers, LastOf layers.flatten e) ∧
      ∀ layer name, ¬Names layer name →
        (stacked (layers ++ [layer])).filter (fun other => sameName other.1 name) =
          (stacked layers).filter fun other => sameName other.1 name) ∧
    ∀ c : Config, Distinct c.requestHeaders ∧
      ∀ standard ∈ [("Content-Type", "application/json"), ("Authorization", c.authorization)],
        ∃ e, c.requestHeaders.filter (fun other => sameName other.1 standard.1) = [e] ∧
          (LastOf c.headers e ∨ ¬Names c.headers standard.1 ∧ e = standard) := by
  refine ⟨fun layers => ⟨distinct_stacked layers, fun name h => exists_filter_stacked h,
    fun e he => mem_stacked_iff.mp he, fun layer name h => ?_⟩, fun c => ⟨?_, ?_⟩⟩
  · rw [stacked_concat, filter_merge_of_not_names h]
  · rw [Config.requestHeaders_eq_stacked]
    exact distinct_stacked _
  · exact fun standard h => c.exists_filter_requestHeaders h

private theorem filter_eq_singleton_of_mem {headers : HeaderMap} {p : String × String → Bool}
    {e other : String × String} (h : headers.filter p = [e]) (hmem : other ∈ headers)
    (hp : p other = true) : headers.filter p = [other] := by
  have hother : other ∈ headers.filter p := List.mem_filter.mpr ⟨hmem, hp⟩
  rw [h] at hother ⊢
  rw [List.mem_singleton.mp hother]

/-- Three layers, of which the first and the last spell one name in three ways. -/
def tenantLayers : List (List (String × String)) :=
  [[("X-Tenant", "a"), ("x-tenant", "b")], [("Via", "d")], [("X-TENANT", "c")]]

/-- Configured headers that spell the one of the credentials in two ways. -/
def spelledCredentials : HeaderMap :=
  [("AUTHORIZATION", "f"), ("authorization", "g")]

/-- The last of three spellings is the one in the map, and of two spellings of the credentials in a
configuration the last one is sent. -/
theorem one_entry_of_layers_tenant :
    (stacked tenantLayers).filter (fun e => sameName e.1 "x-tenant") = [("X-TENANT", "c")] ∧
    (stacked (tenantLayers ++ [[("Accept", "e")]])).filter (fun e => sameName e.1 "x-tenant") =
      [("X-TENANT", "c")] ∧
    ({ Config.builtin with headers := spelledCredentials } : Config).requestHeaders.filter
      (fun e => sameName e.1 "Authorization") = [("authorization", "g")] := by
  obtain ⟨hlayers, hrequests⟩ := one_entry_of_layers
  obtain ⟨-, hnamed, -, hkept⟩ := hlayers tenantLayers
  have hsame : sameName "X-TENANT" "x-tenant" = true := by
    rw [sameName_eq_toList]
    decide
  have hlast : LastOf tenantLayers.flatten ("X-TENANT", "c") :=
    .later (.later (.later (.here (by simp [Names]))))
  obtain ⟨e, -, -, hfilter⟩ := hnamed "x-tenant" ⟨_, hlast.mem, hsame⟩
  have hstays := filter_eq_singleton_of_mem hfilter (mem_stacked_iff.mpr hlast) hsame
  refine ⟨hstays, ?_, ?_⟩
  · rw [hkept [("Accept", "e")] "x-tenant" ?_, hstays]
    simp [Names, sameName_eq_toList]
  · obtain ⟨e, hfilter, -⟩ := (hrequests { Config.builtin with headers := spelledCredentials }).2
      ("Authorization", _) (List.mem_cons_of_mem _ List.mem_cons_self)
    have hlast : LastOf spelledCredentials ("authorization", "g") :=
      .later (.here (by simp [Names]))
    refine filter_eq_singleton_of_mem hfilter (mem_merge_iff.mpr (Or.inl hlast)) ?_
    rw [sameName_eq_toList]
    decide

end Header

end Mailroom
