import FieldSearch.Page
import Mathlib.Algebra.Order.Ring.Int

namespace FieldSearch

/-!
# Pages tile a list

The pages with one limit show the rows of a list one after the other, and each row once.  That the
offsets are capped changes nothing: a page with a capped offset shows no row below the cap.

* `Page.ofRequest_eq_ok_iff` and the lemmas behind it say what a request for a page comes to;
* `Page.offset_eq_ite` and `Page.offset_eq_min` are the offset in words and as an integer;
* `Page.Shows` says that a page shows a row, and `Page.shows_iff` that below the cap it is the page
  whose number is one more than the quotient of the row and the limit;
* `pages_tile` says that exactly one page shows a row.
-/

namespace Page

/-! ### Requests -/

variable {number? limit? : Option UInt64}

/-- A request gives the page that is asked for, where what is missing has its default.  It gives no
    page if one of the two numbers is 0, as those of a page are not. -/
theorem ofRequest_eq_ok_iff {p : Page} :
    ofRequest number? limit? = .ok p ↔
      p.number = number?.getD 1 ∧ p.limit = limit?.getD defaultLimit := by
  unfold ofRequest
  by_cases hnumber : number?.getD 1 = 0
  · rw [dif_pos hnumber]
    refine ⟨nofun, fun h => ?_⟩
    exact absurd (h.1.trans hnumber) p.number_ne_zero
  by_cases hlimit : limit?.getD defaultLimit = 0
  · rw [dif_neg hnumber, dif_pos hlimit]
    refine ⟨nofun, fun h => ?_⟩
    exact absurd (h.2.trans hlimit) p.limit_ne_zero
  · rw [dif_neg hnumber, dif_neg hlimit]
    cases p
    simp only [Except.ok.injEq, Page.mk.injEq, eq_comm]

/-- The number of the page is reported exactly if it is 0. -/
theorem ofRequest_eq_invalidPage_iff {number : UInt64} :
    ofRequest number? limit? = .error (.invalidPage number) ↔
      number = 0 ∧ number?.getD 1 = 0 := by
  unfold ofRequest
  by_cases hnumber : number?.getD 1 = 0
  · rw [dif_pos hnumber]
    simp [hnumber, eq_comm]
  by_cases hlimit : limit?.getD defaultLimit = 0 <;> simp [hnumber, hlimit]

/-- The limit is reported if it is 0 and the number of the page is not. -/
theorem ofRequest_eq_invalidLimit_iff {limit : UInt64} :
    ofRequest number? limit? = .error (.invalidLimit limit) ↔
      limit = 0 ∧ number?.getD 1 ≠ 0 ∧ limit?.getD defaultLimit = 0 := by
  unfold ofRequest
  by_cases hnumber : number?.getD 1 = 0
  · simp [hnumber]
  by_cases hlimit : limit?.getD defaultLimit = 0
  · simp [hnumber, hlimit, eq_comm]
  · simp [hnumber, hlimit]

/-- A request is turned down exactly if one of its two numbers is 0. -/
theorem exists_ofRequest_eq_error_iff :
    (∃ e, ofRequest number? limit? = .error e) ↔
      number?.getD 1 = 0 ∨ limit?.getD defaultLimit = 0 := by
  constructor
  · rintro ⟨e, he⟩
    cases e with
    | invalidPage number => exact .inl (ofRequest_eq_invalidPage_iff.1 he).2
    | invalidLimit limit => exact .inr (ofRequest_eq_invalidLimit_iff.1 he).2.2
  · intro h
    by_cases hnumber : number?.getD 1 = 0
    · exact ⟨_, ofRequest_eq_invalidPage_iff.2 ⟨rfl, hnumber⟩⟩
    · have hlimit := h.resolve_left hnumber
      exact ⟨_, ofRequest_eq_invalidLimit_iff.2 ⟨rfl, hnumber, hlimit⟩⟩

/-! ### Offsets -/

/-- Pages are numbered from 1. -/
theorem one_le_number (p : Page) : 1 ≤ p.number.toNat := by
  have hne : p.number.toNat ≠ 0 := fun h => p.number_ne_zero (UInt64.toNat_inj.1 h)
  omega

/-- A page has at least one entry. -/
theorem one_le_limit (p : Page) : 1 ≤ p.limit.toNat := by
  have hne : p.limit.toNat ≠ 0 := fun h => p.limit_ne_zero (UInt64.toNat_inj.1 h)
  omega

/-- The number of the page before does not wrap around. -/
theorem toNat_number_sub_one (p : Page) : (p.number - 1).toNat = p.number.toNat - 1 := by
  have hle : (1 : UInt64) ≤ p.number := UInt64.le_iff_toNat_le.2 p.one_le_number
  rw [UInt64.toNat_sub_of_le _ _ hle]
  rfl

/-- The offset in words of 64 bits: it is capped where the product would wrap around. -/
theorem offset_eq_ite (p : Page) :
    p.offset =
      if (p.number - 1).toNat * p.limit.toNat < 2 ^ 64 then (p.number - 1) * p.limit
      else .ofNat maxOffset := by
  rw [← UInt64.toNat_inj, toNat_offset, toNat_number_sub_one]
  by_cases hfits : (p.number.toNat - 1) * p.limit.toNat < 2 ^ 64
  · rw [if_pos hfits, UInt64.toNat_mul, toNat_number_sub_one, Nat.mod_eq_of_lt hfits]
    unfold maxOffset UInt64.size
    omega
  · have hcap : (UInt64.ofNat maxOffset).toNat = maxOffset := by decide
    rw [if_neg hfits, hcap]
    unfold maxOffset UInt64.size
    omega

/-- The offset as an integer, whose subtraction is not cut off at 0. -/
theorem offset_eq_min (p : Page) :
    (p.offset.toNat : Int) =
      min (((p.number.toNat : Int) - 1) * p.limit.toNat) (2 ^ 64 - 1) := by
  have hnumber := p.one_le_number
  -- the number of a page is not 0, so that 1 can be taken from it
  have hbefore : (((p.number.toNat - 1) * p.limit.toNat : Nat) : Int) =
      ((p.number.toNat : Int) - 1) * p.limit.toNat := by
    rw [Int.natCast_mul, Int.natCast_sub hnumber]
    rfl
  rw [toNat_offset, ← hbefore]
  unfold maxOffset UInt64.size
  omega

/-! ### The rows of a page -/

/-- A page shows the row with the index `i`, counted from 0. -/
def Shows (p : Page) (i : Nat) : Prop :=
  p.offset.toNat ≤ i ∧ i < p.offset.toNat + p.limit.toNat

instance (p : Page) (i : Nat) : Decidable (p.Shows i) := inferInstanceAs (Decidable (_ ∧ _))

/-- Below the cap, a row is shown by the page whose number is one more than the quotient of the row
    and the limit. -/
theorem shows_iff {p : Page} {i : Nat} (hi : i < maxOffset) :
    p.Shows i ↔ p.number.toNat = i / p.limit.toNat + 1 := by
  have hnumber := p.one_le_number
  have hoffset := p.toNat_offset
  unfold Shows
  constructor
  · rintro ⟨hle, hlt⟩
    -- the offset is at most a row below the cap, and so it is not capped
    have hexact : p.offset.toNat = (p.number.toNat - 1) * p.limit.toNat := by omega
    have hquotient : i / p.limit.toNat = p.number.toNat - 1 := by
      apply Nat.div_eq_of_lt_le
      · rwa [hexact] at hle
      · rwa [Nat.succ_mul, ← hexact]
    omega
  · intro h
    have hquotient : p.number.toNat - 1 = i / p.limit.toNat := by omega
    rw [hquotient] at hoffset
    have hle : i / p.limit.toNat * p.limit.toNat ≤ i := Nat.div_mul_le_self i p.limit.toNat
    have hlt : i < i / p.limit.toNat * p.limit.toNat + p.limit.toNat :=
      Nat.lt_div_mul_add p.one_le_limit
    omega

/-- The number of the page that shows a row below the cap fits into 64 bits. -/
theorem exists_number_of_lt {i : Nat} (hi : i < maxOffset) (limit : UInt64) :
    ∃ number : UInt64, number ≠ 0 ∧ number.toNat = i / limit.toNat + 1 := by
  have hle : i / limit.toNat ≤ i := Nat.div_le_self i limit.toNat
  -- the row itself is below the cap, and its quotient is not above it
  have hlt : i / limit.toNat + 1 < 2 ^ 64 := by
    unfold maxOffset UInt64.size at hi
    omega
  have hnumber : (UInt64.ofNat (i / limit.toNat + 1)).toNat = i / limit.toNat + 1 :=
    UInt64.toNat_ofNat_of_lt' hlt
  refine ⟨.ofNat (i / limit.toNat + 1), fun hzero => ?_, hnumber⟩
  rw [hzero] at hnumber
  exact absurd hnumber (by simp)

/-- Exactly one page shows a row below the cap. -/
theorem existsUnique_shows {limit : UInt64} (hlimit : limit ≠ 0) {i : Nat} (hi : i < maxOffset) :
    ∃! number : UInt64, ∃ p, ofRequest (some number) (some limit) = .ok p ∧ p.Shows i := by
  obtain ⟨number, hne, hnumber⟩ := exists_number_of_lt hi limit
  refine ⟨number, ?_, ?_⟩
  · exact ⟨⟨number, limit, hne, hlimit⟩, ofRequest_eq_ok_iff.2 ⟨rfl, rfl⟩, (shows_iff hi).2 hnumber⟩
  · -- any page that shows the row has the same quotient for its number
    rintro other ⟨p, hp, hshows⟩
    obtain ⟨hother, hplimit⟩ := ofRequest_eq_ok_iff.1 hp
    have hquotient := (shows_iff hi).1 hshows
    rw [hother, hplimit] at hquotient
    exact UInt64.toNat_inj.1 (hquotient.trans hnumber.symm)

end Page

/-- **Pages tile a list.**  A request is turned down exactly if the number of the page, 1 by default,
    or the limit, 10 by default, is 0, and the page is reported first.  The page that it gives
    has the two numbers.  In words of 64 bits, the number of the page before does not wrap around,
    and the product that makes the offset does so only where it is capped; so the offset is the
    number of entries on the pages before, or the greatest 64-bit number if that is less.  With any
    limit, each row below the greatest 64-bit number is shown by exactly one page. -/
theorem pages_tile :
    (∀ number? limit? : Option UInt64,
      ((∃ e, Page.ofRequest number? limit? = .error e) ↔
        number?.getD 1 = 0 ∨ limit?.getD 10 = 0) ∧
      (Page.ofRequest number? limit? = .error (.invalidPage 0) ↔ number?.getD 1 = 0) ∧
      (Page.ofRequest number? limit? = .error (.invalidLimit 0) ↔
        number?.getD 1 ≠ 0 ∧ limit?.getD 10 = 0) ∧
      ∀ p, Page.ofRequest number? limit? = .ok p →
        p.number = number?.getD 1 ∧ p.limit = limit?.getD 10 ∧
          (p.number - 1).toNat = p.number.toNat - 1 ∧
          p.offset = (if (p.number - 1).toNat * p.limit.toNat < 2 ^ 64 then (p.number - 1) * p.limit
            else .ofNat (2 ^ 64 - 1)) ∧
          (p.offset.toNat : Int) =
            min (((p.number.toNat : Int) - 1) * p.limit.toNat) (2 ^ 64 - 1)) ∧
    ∀ limit : UInt64, 1 ≤ limit → ∀ i < 2 ^ 64 - 1, ∃! number : UInt64,
      ∃ p, Page.ofRequest (some number) (some limit) = .ok p ∧ p.Shows i := by
  constructor
  · intro number? limit?
    refine ⟨Page.exists_ofRequest_eq_error_iff, ?_, ?_, fun p hp => ?_⟩
    · exact Page.ofRequest_eq_invalidPage_iff.trans (and_iff_right rfl)
    · exact Page.ofRequest_eq_invalidLimit_iff.trans (and_iff_right rfl)
    · obtain ⟨hnumber, hlimit⟩ := Page.ofRequest_eq_ok_iff.1 hp
      exact ⟨hnumber, hlimit, p.toNat_number_sub_one, p.offset_eq_ite, p.offset_eq_min⟩
  · intro limit hlimit i hi
    apply Page.existsUnique_shows
    · rintro rfl
      exact absurd hlimit (by decide)
    · exact hi

/-- With a limit of `2 ^ 63`, the offset of page 3 is capped, and the last row below the cap is
    shown by page 2 only. -/
theorem pages_tile_capped :
    (∃ p, Page.ofRequest (some 3) (some 0x8000000000000000) = .ok p ∧
      (p.offset.toNat : Int) = 2 ^ 64 - 1) ∧
    ∃! number : UInt64, ∃ p,
      Page.ofRequest (some number) (some 0x8000000000000000) = .ok p ∧ p.Shows (2 ^ 64 - 2) := by
  obtain ⟨hrequest, hshown⟩ := pages_tile
  constructor
  · have hp : Page.ofRequest (some 3) (some 0x8000000000000000) =
        .ok ⟨3, 0x8000000000000000, by decide, by decide⟩ := rfl
    obtain ⟨-, -, -, -, hoffset⟩ := (hrequest _ _).2.2.2 _ hp
    exact ⟨_, hp, hoffset.trans (by decide)⟩
  · exact hshown 0x8000000000000000 (by decide) _ (by decide)

/-- The cap itself is shown by more than one page. -/
example :
    Page.Shows ⟨3, 0x8000000000000000, by decide, by decide⟩ (2 ^ 64 - 1) ∧
      Page.Shows ⟨4, 0x8000000000000000, by decide, by decide⟩ (2 ^ 64 - 1) := by
  decide

end FieldSearch
