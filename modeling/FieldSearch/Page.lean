namespace FieldSearch

/-!
# Pages

Results are shown page by page.  Pages are numbered from 1, and numbers have 64 bits.

* `Page` is a page number with a limit on the entries of a page, neither of which is 0;
* `Page.ofRequest` takes what is asked for, with defaults for what is missing, or says what is
  wrong;
* `Page.offset` is the number of entries on the pages before, at most the greatest 64-bit number.
-/

/-- One page of a list of results. -/
structure Page where
  /-- The number of the page, from 1. -/
  number : UInt64
  /-- The number of entries on a page. -/
  limit : UInt64
  number_ne_zero : number ≠ 0
  limit_ne_zero : limit ≠ 0
deriving DecidableEq

/-- Why there is no such page. -/
inductive PageError where
  | invalidPage (number : UInt64)
  | invalidLimit (limit : UInt64)
deriving DecidableEq

/-- The text of an error. -/
def PageError.message : PageError → String
  | invalidPage number => s!"Invalid page: {number}, pages start at 1"
  | invalidLimit limit => s!"Invalid limit: {limit}"

namespace Page

/-- The number of entries on a page, unless another is asked for. -/
def defaultLimit : UInt64 := 10

/-- The page that is asked for: page 1 and the default limit, unless others are given. -/
def ofRequest (number? limit? : Option UInt64) : Except PageError Page :=
  let number := number?.getD 1
  let limit := limit?.getD defaultLimit
  if hn : number = 0 then .error (.invalidPage number)
  else if hl : limit = 0 then .error (.invalidLimit limit)
  else .ok ⟨number, limit, hn, hl⟩

/-- The first page, with the default limit. -/
def first : Page := ⟨1, defaultLimit, by decide, by decide⟩

instance : Inhabited Page := ⟨first⟩

/-- The greatest 64-bit number. -/
def maxOffset : Nat := UInt64.size - 1

/-- The number of entries on the pages before this one, capped at the greatest 64-bit number. -/
def offset (p : Page) : UInt64 :=
  .ofNat (min ((p.number.toNat - 1) * p.limit.toNat) maxOffset)

/-- The capped number of entries fits into 64 bits. -/
theorem toNat_offset (p : Page) :
    p.offset.toNat = min ((p.number.toNat - 1) * p.limit.toNat) maxOffset := by
  have : min ((p.number.toNat - 1) * p.limit.toNat) maxOffset < 2 ^ 64 := by
    unfold maxOffset UInt64.size
    omega
  rw [offset, UInt64.toNat_ofNat', Nat.mod_eq_of_lt this]

end Page

end FieldSearch
