/-
The pages of a listing.

A listing that is cut into pages of one size is all there: the pages up to the last one,
one after the other, are the listing, each of them full but for the last, and nothing
comes after it.  All of it follows from one fact about the number of pages: page `n + 1`
is one of them exactly if more than `n` full pages of items are there.

Page numbers have thirty-two bits and a page has a hundred items at most, so the number
of items before a page always has room in the sixty-four bits that the store gives it.
-/
import AnalysisDesk.Views.Listing

namespace AnalysisDesk

/-- A listing in pages of `limit` items, by their numbers, of which `last` is the last. -/
structure Pages {α : Type} (limit : Nat) (listing : List α) (last : Nat) (page : Nat → Page α) :
    Prop where
  /-- Every page says where it stands. -/
  place : ∀ n, (page n).pagination = ⟨max 1 n, limit, listing.length, last⟩
  /-- There is no page before the first. -/
  zero : page 0 = page 1
  /-- The pages are the listing. -/
  all : (List.range last).flatMap (fun n => (page (n + 1)).items) = listing
  /-- Every page but the last is full. -/
  full : ∀ n, 1 ≤ n → n < last → (page n).items.length = limit
  /-- The last page has at least one item. -/
  nonempty : 0 < last → 1 ≤ (page last).items.length ∧ (page last).items.length ≤ limit
  /-- After the last page nothing comes. -/
  beyond : ∀ n, last < n → (page n).items = []

/-- Whether a view gives out a listing page by page, with any number of items to a page that may
be asked for. -/
def GivesOut {α : Type} (view : PageRequest → Store.View (Page α)) (items : Nat)
    (listing : List α) : Prop :=
  ∀ limit? : Option Nat, ∃ (last : Nat) (page : Nat → Page α),
    Pages (min 100 (max 1 (limit?.getD items))) listing last page ∧
    (∀ n, n ≤ Limit.word32 → view ⟨some n, limit?⟩ = .ok (some (page n))) ∧
    view ⟨none, limit?⟩ = .ok (some (page 1))

/-- Whether every page of a view tells the same total. -/
def Totals {α : Type} (view : PageRequest → Store.View (Page α)) (total : Nat) : Prop :=
  ∀ request : PageRequest, request.page.getD 1 ≤ Limit.word32 →
    ∃ page, view request = .ok (some page) ∧ page.pagination.total = total

variable {α : Type} {limit : Nat}

/-- The pages of a listing tell how long it is. -/
theorem GivesOut.totals {view : PageRequest → Store.View (Page α)} {items : Nat} {listing : List α}
    (h : GivesOut view items listing) : Totals view listing.length := by
  intro request hpage
  obtain ⟨last, page, hpages, hgiven, hfirst⟩ := h request.limit
  obtain ⟨n?, limit?⟩ := request
  cases n? with
  | none => exact ⟨page 1, hfirst, by rw [hpages.place]⟩
  | some n => exact ⟨page n, hgiven n hpage, by rw [hpages.place]⟩

/-! ### Cutting -/

/-- A list is cut into parts of one length. -/
theorem flatMap_range_take (as : List α) (limit count : Nat) :
    (List.range count).flatMap (fun n => (as.drop (n * limit)).take limit)
      = as.take (count * limit) := by
  induction count with
  | zero => rw [List.range_zero, List.flatMap_nil, Nat.zero_mul, List.take_zero]
  | succ count ih =>
      rw [List.range_succ, List.flatMap_append, ih, List.flatMap_singleton, Nat.succ_mul,
        List.take_add]

/-- A page is one of those that a listing has if more items are there than stand before it. -/
theorem lt_pageCount_iff (hlimit : 0 < limit) (n total : Nat) :
    n < (total + limit - 1) / limit ↔ n * limit < total := by
  rw [Nat.lt_iff_add_one_le, Nat.le_div_iff_mul_le hlimit, Nat.add_one_mul]
  omega

/-- A page of a listing by its number. -/
def pageOf (limit : Nat) (listing : List α) (n : Nat) : Page α where
  items := (listing.drop ((max 1 n - 1) * limit)).take limit
  pagination := ⟨max 1 n, limit, listing.length, (listing.length + limit - 1) / limit⟩

private theorem length_items_pageOf (limit : Nat) (listing : List α) (n : Nat) :
    (pageOf limit listing n).items.length
      = min limit (listing.length - (max 1 n - 1) * limit) := by
  unfold pageOf
  rw [List.length_take, List.length_drop]

/-- **A listing that is cut into pages is all there.** -/
theorem pages_pageOf (hlimit : 0 < limit) (listing : List α) :
    Pages limit listing ((listing.length + limit - 1) / limit) (pageOf limit listing) := by
  have hcount : ∀ n, n < (listing.length + limit - 1) / limit ↔ n * limit < listing.length :=
    fun n => lt_pageCount_iff hlimit n listing.length
  generalize hlast : (listing.length + limit - 1) / limit = last at hcount
  refine ⟨fun n => ?_, rfl, ?_, fun n hone hn => ?_, fun hn => ?_, fun n hn => ?_⟩
  · rw [← hlast]
    rfl
  · have henough : listing.length ≤ last * limit :=
      Nat.not_lt.mp fun hc => Nat.lt_irrefl last ((hcount last).mpr hc)
    show (List.range last).flatMap (fun n => (listing.drop (n * limit)).take limit) = listing
    rw [flatMap_range_take, List.take_of_length_le henough]
  · have hafter := (hcount n).mp hn
    have hbefore : (n - 1) * limit + limit = n * limit := by
      rw [← Nat.succ_mul, Nat.succ_eq_add_one, Nat.sub_add_cancel hone]
    rw [length_items_pageOf, Nat.max_eq_right hone]
    omega
  · have hbefore := (hcount (last - 1)).mp (Nat.sub_one_lt_of_lt hn)
    rw [length_items_pageOf, Nat.max_eq_right hn]
    omega
  · have hbefore : listing.length ≤ (n - 1) * limit :=
      Nat.not_lt.mp fun hc => Nat.not_lt.mpr (Nat.le_sub_one_of_lt hn) ((hcount (n - 1)).mpr hc)
    show (listing.drop ((max 1 n - 1) * limit)).take limit = []
    rw [Nat.max_eq_right (Nat.one_le_of_lt hn), List.drop_of_length_le hbefore, List.take_nil]

/-! ### Windows -/

namespace PageRequest

variable {request : PageRequest} {items : Nat}

/-- **Before no page stand more items than have room in sixty-four bits with sign.** -/
theorem holds64_offset (hpage : request.page.getD 1 ≤ Limit.word32) :
    Limit.holds64 (request.resolve items).offset = true := by
  have hpage' : (request.resolve items).page - 1 ≤ Limit.word32 := by
    unfold resolve
    dsimp only
    omega
  have hlimit : (request.resolve items).limit ≤ 100 := Nat.min_le_left _ _
  have hoffset : (request.resolve items).offset ≤ Limit.word32 * 100 := Nat.mul_le_mul hpage' hlimit
  unfold Limit.word32 at hoffset
  rw [Limit.holds64_iff]
  unfold Limit.least64 Limit.greatest64
  omega

/-- What is cut out for a request is the page that it names. -/
theorem paged_cut (request : PageRequest) (items : Nat)
    (hpage : request.page.getD 1 ≤ Limit.word32) (listing : List α) :
    Store.paged (request.resolve items) ((request.resolve items).window.cut listing, listing.length)
      = pageOf (request.resolve items).limit listing (request.page.getD 1) := by
  have hstart : (request.resolve items).window.start = (request.resolve items).offset :=
    if_pos (holds64_offset hpage)
  unfold Store.paged Window.cut
  rw [hstart]
  rfl

end PageRequest

/-- A view whose pages are cut out of a listing gives out the listing. -/
theorem givesOut_of_cut {view : PageRequest → Store.View (Page α)} {items : Nat} {listing : List α}
    (h : ∀ request, view request = .ok (some (Store.paged (request.resolve items)
      ((request.resolve items).window.cut listing, listing.length)))) :
    GivesOut view items listing := by
  intro limit?
  refine ⟨_, pageOf (min 100 (max 1 (limit?.getD items))) listing, pages_pageOf (by omega) listing,
    fun n hn => ?_, ?_⟩
  · have hcut := PageRequest.paged_cut ⟨some n, limit?⟩ items hn listing
    rw [h, hcut]
    rfl
  · have hone : (1 : Nat) ≤ Limit.word32 := by decide
    have hcut := PageRequest.paged_cut ⟨none, limit?⟩ items hone listing
    rw [h, hcut]
    rfl

end AnalysisDesk
