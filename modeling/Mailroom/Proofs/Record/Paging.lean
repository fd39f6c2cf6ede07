import Mathlib.Algebra.Order.Floor.Div
import Mailroom.Record.Page

/-!
# Walking through pages

The number of pages is the least one whose pages hold all items, and no less than one; neither it
nor the number of a next page ever exceeds 64 bits. A server that answers with the page it was asked
for and with the same counts every time is walked through by following the next page: the walk gets
every page once, in their order, and ends with the last one. Together these pages hold every item
once.
-/

namespace Mailroom.Page

variable {α : Type}

/-! ## The number of pages -/

/-- A quotient that is rounded up still has 64 bits: there is no rest of a division by one. -/
theorem toNat_roundedUp {total perPage : UInt64} (h : 0 < perPage.toNat) :
    (if total % perPage = 0 then total / perPage else total / perPage + 1).toNat =
      total.toNat ⌈/⌉ perPage.toNat := by
  have hmod : total % perPage = 0 ↔ total.toNat % perPage.toNat = 0 := by
    rw [← UInt64.toNat_inj, UInt64.toNat_mod, UInt64.toNat_zero]
  refine eq_of_forall_ge_iff fun bound => ?_
  rw [ceilDiv_le_iff_le_mul h, Nat.mul_comm]
  split
  · next hexact =>
    have hdvd : perPage.toNat ∣ total.toNat := Nat.dvd_of_mod_eq_zero (hmod.mp hexact)
    rw [UInt64.toNat_div, Nat.div_le_iff_le_mul_of_dvd h.ne' hdvd]
  · next hrest =>
    rw [hmod] at hrest
    have hperPage : 2 ≤ perPage.toNat := by
      refine Nat.lt_of_le_of_ne h fun hone => hrest ?_
      rw [← hone, Nat.mod_one]
    have hhalf : total.toNat / perPage.toNat ≤ total.toNat / 2 :=
      Nat.div_le_div_left hperPage (by decide)
    have hsum : (total / perPage + 1).toNat = total.toNat / perPage.toNat + 1 := by
      have htotal := total.toNat_lt
      rw [UInt64.toNat_add, UInt64.toNat_div, UInt64.toNat_one, Nat.mod_eq_of_lt (by omega)]
    rw [hsum, Nat.succ_le_iff, Nat.div_lt_iff_lt_mul h]
    refine ⟨Nat.le_of_lt, fun hle => Nat.lt_of_le_of_ne hle fun heq => hrest ?_⟩
    rw [heq, Nat.mul_mod_left]

/-- The number of pages is the quotient of the counts, rounded up, and at least one. -/
theorem toNat_totalPages {p : Page α} (h : 0 < p.perPage.toNat) :
    p.totalPages.toNat = max (p.total.toNat ⌈/⌉ p.perPage.toNat) 1 := by
  have hperPage : p.perPage ≠ 0 := by
    intro hzero
    rw [hzero] at h
    exact absurd h (by decide)
  rw [totalPages, if_neg hperPage, UInt64.toNat_max, toNat_roundedUp h, UInt64.toNat_one]

theorem totalPages_of_perPage_eq_zero {p : Page α} (h : p.perPage = 0) : p.totalPages = 1 :=
  if_pos h

theorem one_le_totalPages (p : Page α) : 1 ≤ p.totalPages.toNat := by
  rcases Nat.eq_zero_or_pos p.perPage.toNat with hzero | hpos
  · rw [totalPages_of_perPage_eq_zero (UInt64.toNat_inj.mp hzero)]
    exact Nat.le_refl 1
  · rw [toNat_totalPages hpos]
    exact Nat.le_max_right _ _

/-- All items fit the pages. -/
theorem total_le {p : Page α} (h : 0 < p.perPage.toNat) :
    p.total.toNat ≤ p.totalPages.toNat * p.perPage.toNat := by
  rw [Nat.mul_comm, ← ceilDiv_le_iff_le_mul h, toNat_totalPages h]
  exact Nat.le_max_left _ _

/-- With one page less not all items fit. -/
theorem lt_total {p : Page α} (h : 0 < p.perPage.toNat) (htotal : 0 < p.total.toNat) :
    (p.totalPages.toNat - 1) * p.perPage.toNat < p.total.toNat := by
  have hceil : 1 ≤ p.total.toNat ⌈/⌉ p.perPage.toNat := by
    rw [← Nat.not_lt, Nat.lt_one_iff, ← Nat.le_zero, ceilDiv_le_iff_le_mul h]
    omega
  rw [← Nat.not_le, Nat.mul_comm, ← ceilDiv_le_iff_le_mul h, toNat_totalPages h,
    Nat.max_eq_left hceil]
  omega

theorem totalPages_of_total_eq_zero {p : Page α} (h : p.total = 0) : p.totalPages = 1 := by
  rcases Nat.eq_zero_or_pos p.perPage.toNat with hzero | hpos
  · exact totalPages_of_perPage_eq_zero (UInt64.toNat_inj.mp hzero)
  · have hceil : p.total.toNat ⌈/⌉ p.perPage.toNat ≤ 0 := by
      rw [ceilDiv_le_iff_le_mul hpos, h]
      exact Nat.zero_le _
    rw [← UInt64.toNat_inj, toNat_totalPages hpos, Nat.max_eq_right (Nat.le_succ_of_le hceil)]
    rfl

/-- The number of pages depends on the counts alone. -/
theorem totalPages_congr {p q : Page α} (htotal : p.total = q.total)
    (hperPage : p.perPage = q.perPage) : p.totalPages = q.totalPages := by
  rw [totalPages, totalPages, htotal, hperPage]

/-! ## The next page -/

theorem nextPage?_eq_none_iff {p : Page α} :
    p.nextPage? = none ↔ p.totalPages.toNat ≤ p.page.toNat := by
  rw [nextPage?, ← UInt64.le_iff_toNat_le]
  by_cases h : p.totalPages ≤ p.page <;> simp [isLastPage, h]

/-- A next page is the one after this, which is one of the pages. -/
theorem toNat_of_nextPage? {p : Page α} {n : UInt64} (h : p.nextPage? = some n) :
    n.toNat = p.page.toNat + 1 ∧ n.toNat ≤ p.totalPages.toNat := by
  have hlast : p.page.toNat < p.totalPages.toNat := by
    rw [← Nat.not_le, ← nextPage?_eq_none_iff, h]
    exact Option.some_ne_none n
  have hsum : (p.page + 1).toNat = p.page.toNat + 1 := by
    have hpages := p.totalPages.toNat_lt
    rw [UInt64.toNat_add, UInt64.toNat_one, Nat.mod_eq_of_lt (by omega)]
  rw [nextPage?] at h
  split at h
  · cases h
  · obtain rfl := Option.some.inj h
    exact ⟨hsum, hsum ▸ hlast⟩

/-! ## Walks -/

/-- The pages that a walk gets in some steps at most, where every step asks for the page that comes
next. A server may answer the same question in another way when it is asked again. -/
def follow (serve : Nat → UInt64 → Page α) (steps asked : Nat) (n : UInt64) : List (Page α) :=
  match steps with
  | 0 => []
  | steps + 1 =>
    serve asked n ::
      match (serve asked n).nextPage? with
      | none => []
      | some next => follow serve steps (asked + 1) next

/-- A server answers with the page that it is asked for and never changes the counts. -/
structure Steady (serve : Nat → UInt64 → Page α) (total perPage : UInt64) : Prop where
  page : ∀ asked n, (serve asked n).page = n
  total : ∀ asked n, (serve asked n).total = total
  perPage : ∀ asked n, (serve asked n).perPage = perPage

/-- The items that belong on a page, by their places in the whole list. -/
def places (p : Page α) : List Nat :=
  let before := (p.page.toNat - 1) * p.perPage.toNat
  List.range' (before + 1) (min p.perPage.toNat (p.total.toNat - before))

section Steady

variable {serve : Nat → UInt64 → Page α} {total perPage : UInt64} (h : Steady serve total perPage)
include h

theorem Steady.totalPages_eq (asked : Nat) (n : UInt64) :
    (serve asked n).totalPages = (serve 0 1).totalPages :=
  totalPages_congr ((h.total asked n).trans (h.total 0 1).symm)
    ((h.perPage asked n).trans (h.perPage 0 1).symm)

/-- From a page on, a walk gets one page after the other up to the last. -/
theorem Steady.map_page_follow (steps asked : Nat) {n : UInt64}
    (hn : n.toNat ≤ (serve 0 1).totalPages.toNat) :
    (follow serve steps asked n).map (fun p => p.page.toNat) =
      List.range' n.toNat (min steps ((serve 0 1).totalPages.toNat + 1 - n.toNat)) := by
  induction steps generalizing asked n with
  | zero => rw [Nat.zero_min]; rfl
  | succ steps ih =>
    rw [follow, List.map_cons, h.page]
    cases hnext : (serve asked n).nextPage? with
    | none =>
      have hlast := nextPage?_eq_none_iff.mp hnext
      rw [h.page, h.totalPages_eq] at hlast
      rw [show min (steps + 1) ((serve 0 1).totalPages.toNat + 1 - n.toNat) = 1 by omega]
      rfl
    | some m =>
      obtain ⟨hm, hpages⟩ := toNat_of_nextPage? hnext
      rw [h.page] at hm
      rw [h.totalPages_eq] at hpages
      rw [show min (steps + 1) ((serve 0 1).totalPages.toNat + 1 - n.toNat) =
          min steps ((serve 0 1).totalPages.toNat + 1 - m.toNat) + 1 by omega,
        List.range'_succ, ← hm]
      exact congrArg (n.toNat :: ·) (ih (asked + 1) hpages)

theorem Steady.forall_mem_follow (steps asked : Nat) (n : UInt64) :
    ∀ p ∈ follow serve steps asked n, p.total = total ∧ p.perPage = perPage := by
  induction steps generalizing asked n with
  | zero => exact List.forall_mem_nil _
  | succ steps ih =>
    refine List.forall_mem_cons.mpr ⟨⟨h.total asked n, h.perPage asked n⟩, ?_⟩
    split
    · exact List.forall_mem_nil _
    · exact ih (asked + 1) _

end Steady

/-- Pages of one size, from the first on, hold the items one after the other. -/
theorem flatMap_places (total perPage pages : Nat) :
    (List.range' 1 pages).flatMap (fun k => List.range' ((k - 1) * perPage + 1)
      (min perPage (total - (k - 1) * perPage))) = List.range' 1 (min (pages * perPage) total) := by
  induction pages with
  | zero => simp
  | succ pages ih =>
    rw [List.range'_concat, List.flatMap_append, ih, List.flatMap_singleton, Nat.one_mul,
      Nat.add_sub_cancel_left, Nat.succ_mul]
    rcases Nat.le_total (pages * perPage) total with hle | hle
    · rw [Nat.min_eq_left hle, Nat.add_comm _ 1, List.range'_append_1]
      congr 1
      omega
    · rw [Nat.min_eq_right hle, Nat.sub_eq_zero_of_le hle, Nat.min_zero, List.range'_zero,
        List.append_nil, Nat.min_eq_right (Nat.le_add_right_of_le hle)]

/--
The pages of a list are at least one, and as few as hold its items; an empty list and one without a
size of pages have a single page. A page has no next one exactly if it is the last or behind it, and
else the next one is the page after it, which is one of the pages. Where a server gives the pages
that it is asked for and keeps the counts, a walk from the first page along the next ones gets the
pages one after the other, each once, and no more than there are, however many steps it may take. In
as many steps as there are pages it gets the place of every item, once and in order.
-/
theorem walk_of_pages :
    (∀ p : Page α, 1 ≤ p.totalPages.toNat ∧
      (0 < p.perPage.toNat → 0 < p.total.toNat →
        (p.totalPages.toNat - 1) * p.perPage.toNat < p.total.toNat ∧
        p.total.toNat ≤ p.totalPages.toNat * p.perPage.toNat) ∧
      (p.perPage = 0 ∨ p.total = 0 → p.totalPages = 1) ∧
      (p.nextPage? = none ↔ p.totalPages.toNat ≤ p.page.toNat) ∧
      ∀ n, p.nextPage? = some n →
        n.toNat = p.page.toNat + 1 ∧ n.toNat ≤ p.totalPages.toNat) ∧
    ∀ (serve : Nat → UInt64 → Page α) (total perPage : UInt64), Steady serve total perPage →
      ∀ steps,
        (follow serve steps 0 1).map (fun p => p.page.toNat) =
          List.range' 1 (min steps (serve 0 1).totalPages.toNat) ∧
        (0 < perPage.toNat → (serve 0 1).totalPages.toNat ≤ steps →
          (follow serve steps 0 1).flatMap places = List.range' 1 total.toNat) := by
  refine ⟨fun p => ⟨p.one_le_totalPages, fun h htotal => ⟨lt_total h htotal, total_le h⟩, ?_,
    nextPage?_eq_none_iff, fun n => toNat_of_nextPage?⟩, fun serve total perPage h steps => ?_⟩
  · rintro (hzero | hzero)
    · exact totalPages_of_perPage_eq_zero hzero
    · exact totalPages_of_total_eq_zero hzero
  · have hpages := h.map_page_follow steps 0 (n := 1) (serve 0 1).one_le_totalPages
    rw [UInt64.toNat_one, Nat.add_sub_cancel] at hpages
    refine ⟨hpages, fun hpos hsteps => ?_⟩
    have hplaces : (follow serve steps 0 1).flatMap places =
        ((follow serve steps 0 1).map fun p => p.page.toNat).flatMap fun k =>
          List.range' ((k - 1) * perPage.toNat + 1)
            (min perPage.toNat (total.toNat - (k - 1) * perPage.toNat)) := by
      rw [List.flatMap_map]
      refine List.flatMap_congr fun p hp => ?_
      obtain ⟨htotal, hperPage⟩ := h.forall_mem_follow steps 0 1 p hp
      rw [places, htotal, hperPage]
    have hfits : total.toNat ≤ (serve 0 1).totalPages.toNat * perPage.toNat := by
      rw [← h.total 0 1, ← h.perPage 0 1]
      exact total_le ((h.perPage 0 1).symm ▸ hpos)
    rw [hplaces, hpages, flatMap_places, Nat.min_eq_right hsteps, Nat.min_eq_right hfits]

/-- A server with forty-five items on pages of twenty, which it does not show. -/
def serveFortyFive (_asked : Nat) (n : UInt64) : Page Json :=
  ⟨[], 45, n, 20⟩

/-- Three pages are walked through, although the walk may take nine steps. -/
theorem walk_of_pages_serveFortyFive : Steady serveFortyFive 45 20 ∧
    (follow serveFortyFive 9 0 1).map (fun p => p.page.toNat) = [1, 2, 3] ∧
    (follow serveFortyFive 9 0 1).flatMap places = List.range' 1 45 := by
  have hsteady : Steady serveFortyFive 45 20 := ⟨fun _ _ => rfl, fun _ _ => rfl, fun _ _ => rfl⟩
  have hpages : (serveFortyFive 0 1).totalPages.toNat = 3 := by decide
  obtain ⟨-, hwalks⟩ := walk_of_pages (α := Json)
  obtain ⟨hwalk, hplaces⟩ := hwalks serveFortyFive 45 20 hsteady 9
  rw [hpages] at hwalk
  exact ⟨hsteady, hwalk, hplaces (by decide) (hpages ▸ by decide)⟩

end Mailroom.Page
