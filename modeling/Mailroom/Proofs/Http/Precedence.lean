import Mailroom.Proofs.Http.Merge

/-!
# Precedence of header layers

Layers of headers lie one over another. An entry heads the layers if it is the entry of its name in
the highest layer that has the name, in any spelling. A merge of two layers counts like the one over
the other (`heads_merge_cons`), so a tower of merges is opened from outside in.
-/

namespace Mailroom.Header

/-! ## Merged layers -/

/-- Laying entries over a map keeps the spellings in order. -/
theorem ascending_merge {headers : HeaderMap} (h : headers.Ascending)
    (layer : List (String × String)) : (merge headers layer).Ascending := by
  induction layer generalizing headers with
  | nil => exact h
  | cons e rest ih =>
    have hput : (put headers e.1 e.2).Ascending :=
      Dict.Ascending.insert (List.Pairwise.filter _ h) _ _
    exact ih hput

/-- The names of merged layers are those of either. -/
theorem names_merge_iff {lower : HeaderMap} {upper : List (String × String)} {name : String} :
    Names (merge lower upper) name ↔ Names upper name ∨ Names lower name := by
  constructor
  · rintro ⟨e, he, hname⟩
    rcases mem_merge_iff.mp he with hlast | ⟨hmem, -⟩
    · exact Or.inl ⟨e, hlast.mem, hname⟩
    · exact Or.inr ⟨e, hmem, hname⟩
  · intro hnames
    by_cases hupper : Names upper name
    · obtain ⟨e, hlast, hname⟩ := exists_lastOf hupper
      exact ⟨e, mem_merge_iff.mpr (Or.inl hlast), hname⟩
    · obtain ⟨e, he, hname⟩ := hnames.resolve_left hupper
      exact ⟨e, mem_merge_iff.mpr (Or.inr ⟨he, fun h => hupper ((Names.congr hname).mp h)⟩), hname⟩

/-- Of merged layers the upper one decides on the last spelling of a name that it has. -/
theorem lastSpelled_merge_iff {lower upper : Dict String} (hu : upper.Ascending)
    {e : String × String} :
    LastSpelled (merge lower upper) e ↔
      LastSpelled upper e ∨ ¬Names upper e.1 ∧ LastSpelled lower e := by
  have hmem : ∀ other, other ∈ merge lower upper ↔
      LastSpelled upper other ∨ other ∈ lower ∧ ¬Names upper other.1 := by
    intro other
    rw [mem_merge_iff, lastOf_iff_lastSpelled hu]
  constructor
  · rintro ⟨he, hlargest⟩
    rcases (hmem e).mp he with hupper | ⟨hlower, hunnamed⟩
    · exact Or.inl hupper
    · refine Or.inr ⟨hunnamed, hlower, fun other hother hname => hlargest other ?_ hname⟩
      exact (hmem other).mpr (Or.inr ⟨hother, fun h => hunnamed ((Names.congr hname).mp h)⟩)
  · rintro (hupper | ⟨hunnamed, hlower⟩)
    · refine ⟨(hmem e).mpr (Or.inl hupper), fun other hother hname => ?_⟩
      rcases (hmem other).mp hother with hlast | ⟨-, hunnamed⟩
      · exact hupper.2 other hlast.1 hname
      · exact absurd ⟨e, hupper.1, (sameName_comm _ _).trans hname⟩ hunnamed
    · refine ⟨(hmem e).mpr (Or.inr ⟨hlower.1, hunnamed⟩), fun other hother hname => ?_⟩
      rcases (hmem other).mp hother with hlast | ⟨hother, -⟩
      · exact absurd ⟨other, hlast.1, hname⟩ hunnamed
      · exact hlower.2 other hother hname

/-- Of three layers, one over the other, the upper two may be merged first. -/
theorem merge_assoc {a b c : Dict String} (ha : a.Ascending) (hb : b.Ascending)
    (hc : c.Ascending) : merge (merge a b) c = merge a (merge b c) := by
  have hupper := ascending_merge hb c
  refine (ascending_merge (ascending_merge ha b) c).ext_of_mem (ascending_merge ha _) fun e => ?_
  rw [mem_merge_iff, mem_merge_iff, mem_merge_iff, lastOf_iff_lastSpelled hb,
    lastOf_iff_lastSpelled hc, lastOf_iff_lastSpelled hupper, lastSpelled_merge_iff hc,
    names_merge_iff]
  grind

/-- A layer that has every name once is what comes of it over nothing. -/
theorem Distinct.merge_nil {layer : Dict String} (h : Distinct layer) (horder : layer.Ascending) :
    Header.merge [] layer = layer := by
  refine (ascending_merge Dict.ascending_nil layer).ext_of_mem horder fun e => ?_
  rw [mem_merge_iff, lastOf_iff_lastSpelled horder]
  constructor
  · rintro (hlast | ⟨hnone, -⟩)
    · exact hlast.1
    · cases hnone
  · intro hmem
    refine Or.inl ⟨hmem, fun other hother hname => ?_⟩
    obtain rfl := h.eq_of_sameName hother hmem hname
    exact String.le_refl _

/-! ## Towers of layers -/

/-- An entry is the one of its name in the highest layer that has the name. -/
def Heads (layers : List (Dict String)) (e : String × String) : Prop :=
  match layers with
  | [] => False
  | top :: rest => LastSpelled top e ∨ ¬Names top e.1 ∧ Heads rest e

theorem heads_singleton {layer : Dict String} {e : String × String} :
    Heads [layer] e ↔ LastSpelled layer e := by
  simp [Heads]

/-- A merge of two layers counts like the one over the other. -/
theorem heads_merge_cons {lower upper : Dict String} (hu : upper.Ascending)
    {rest : List (Dict String)} {e : String × String} :
    Heads (merge lower upper :: rest) e ↔ Heads (upper :: lower :: rest) e := by
  simp only [Heads, lastSpelled_merge_iff hu, names_merge_iff]
  rw [not_or, or_assoc, and_assoc, ← and_or_left]

/-- Layers that are headed by the same entries are so under a further one. -/
theorem heads_cons_congr {top : Dict String} {layers layers' : List (Dict String)}
    (h : ∀ e, Heads layers e ↔ Heads layers' e) (e : String × String) :
    Heads (top :: layers) e ↔ Heads (top :: layers') e := by
  rw [Heads, Heads, h]

/-- A name that a layer has is headed by an entry. -/
theorem exists_heads {layers : List (Dict String)} (h : ∀ layer ∈ layers, layer.Ascending)
    {name : String} (hnames : ∃ layer ∈ layers, Names layer name) :
    ∃ e, Heads layers e ∧ sameName e.1 name = true := by
  induction layers with
  | nil =>
    obtain ⟨layer, hlayer, -⟩ := hnames
    cases hlayer
  | cons top rest ih =>
    by_cases htop : Names top name
    · obtain ⟨e, hlast, hname⟩ := exists_lastOf htop
      exact ⟨e, Or.inl ((lastOf_iff_lastSpelled (h top List.mem_cons_self)).mp hlast), hname⟩
    · obtain ⟨layer, hlayer, hnamed⟩ := hnames
      have hrest : ∃ layer ∈ rest, Names layer name := by
        rcases List.mem_cons.mp hlayer with rfl | hlayer
        · exact absurd hnamed htop
        · exact ⟨layer, hlayer, hnamed⟩
      obtain ⟨e, hheads, hname⟩ := ih (fun l hl => h l (List.mem_cons_of_mem _ hl)) hrest
      exact ⟨e, Or.inr ⟨fun htop' => htop ((Names.congr hname).mp htop'), hheads⟩, hname⟩

end Mailroom.Header
