import Cutover.Proofs.Decimal.Ceiling
import Mathlib.Data.List.Basic

/-!
# Pages of a list

A list is shown page by page. What is on a page, how many pages there are and whether another one follows are found
separately: by cutting a piece out of the list, by a quotient that is rounded up, and by comparing the number of the
page with it. For lists and sizes of at most 53 bits the three agree.

* `pageOf_whole`: a page whose number and size are whole numbers;
* `pageOf_covers`: the pages hold what the list holds, whatever their size;
* `pageAt`, `pageCount`: the pages of a list and their number, told without rounding;
* `Page.Partition`, `partition_pageAt`: **the pages of a list are a partition of it**;
* `LeafsThrough`: the pages that one sees who turns the page as long as another one follows;
* `pages_partition`: pages that are asked for are a partition of the list, and leafing through them shows all of it.
-/

namespace Cutover

/-! ## Single pages -/

theorem pageOf_whole (items : List Resource) (usual : Quantity) {number size : Int} (hnumber : 1 ≤ number)
    (hsize : 1 ≤ size) : pageOf items usual (.whole number) (.whole size) =
      .ok ⟨itemsOn items number size, .whole number, .whole size, .whole items.length⟩ := by
  have hone : ∀ n : Int, 1 ≤ n → (Quantity.whole n).isBelow 1 = false := by
    intro n hn
    rw [Quantity.isBelow_whole, decide_eq_false_iff_not]
    omega
  have hsized : (Value.whole size).isTruthy = true := by
    rw [Value.isTruthy, bne_iff_ne]
    omega
  have hcounting : ∀ n : Int, counting (.whole n) = .ok n := fun _ => rfl
  have hquantity : ∀ n : Int, Form.asQuantity (.whole n) = .ok (.whole n) := fun _ => rfl
  simp only [pageOf, hsized, if_true, hquantity, bind, Except.bind, hone number hnumber, hone size hsize, hcounting]
  rfl

theorem mem_of_mem_itemsOn {α : Type} {items : List α} {number size : Int} {x : α}
    (h : x ∈ itemsOn items number size) : x ∈ items := by
  unfold itemsOn at h
  dsimp only at h
  split at h
  · cases h
  · exact List.mem_of_mem_drop (List.mem_of_mem_take h)

theorem getElem_mem_itemsOn {α : Type} (items : List α) {i : Nat} (hi : i < items.length) {size : Int}
    (hsize : 1 ≤ size) : items[i] ∈ itemsOn items (i / size + 1) size := by
  have hdiv : (i / size : Int) * size + i % size = i := Int.ediv_mul_add_emod ..
  have hle : 0 ≤ (i : Int) % size := Int.emod_nonneg _ (by omega)
  have hlt : (i : Int) % size < size := Int.emod_lt_of_pos _ (by omega)
  have hstart : 0 ≤ (i / size : Int) * size := Int.mul_nonneg (Int.ediv_nonneg (by omega) (by omega)) (by omega)
  unfold itemsOn
  rw [Int.add_sub_cancel, if_neg (by omega)]
  generalize (i / size : Int) * size = start at *
  obtain ⟨n, rfl⟩ := Int.eq_ofNat_of_zero_le hstart
  have hthere : (items.drop n)[i - n]? = some items[i] := by
    rw [List.getElem?_drop, show n + (i - n) = i by omega, List.getElem?_eq_getElem hi]
  refine List.mem_of_getElem? (i := i - n) ?_
  rw [Int.toNat_natCast, List.getElem?_take_of_lt (by omega), hthere]

theorem mem_of_pageOf {items : List Resource} {usual : Quantity} {number size : Value} {page : Page}
    (h : pageOf items usual number size = .ok page) {x : Resource} (hx : x ∈ page.items) : x ∈ items := by
  simp only [pageOf, bind, Except.bind] at h
  repeat' split at h
  all_goals cases h <;> exact mem_of_mem_itemsOn hx

/-- **The pages of a list hold what the list holds**, whatever their size. -/
theorem pageOf_covers (items : List Resource) (usual : Quantity) {size : Int} (hsize : 1 ≤ size) (x : Resource) :
    x ∈ items ↔ ∃ (number : Int) (page : Page),
      pageOf items usual (.whole number) (.whole size) = .ok page ∧ x ∈ page.items := by
  constructor
  · intro hx
    obtain ⟨i, hi, rfl⟩ := List.getElem_of_mem hx
    have hnumber : 1 ≤ (i / size : Int) + 1 := by
      have := Int.ediv_nonneg (Int.natCast_nonneg i) (show 0 ≤ size by omega)
      omega
    exact ⟨_, _, pageOf_whole items usual hnumber hsize, getElem_mem_itemsOn items hi hsize⟩
  · rintro ⟨number, page, hpage, hx⟩
    exact mem_of_pageOf hpage hx

/-- The size of the pages that are asked for: the usual one, if none is given. -/
def sizeOr (usual : Quantity) (given : Value) : Value := if given.isTruthy then given else usual.toValue

theorem pageOf_sizeOr (items : List Resource) {usual : Quantity} {given number : Value} {size : Int}
    (hgiven : sizeOr usual given = .whole size) (hsize : 1 ≤ size) :
    pageOf items usual number given = pageOf items usual number (.whole size) := by
  have hsized : sizeOr usual (.whole size) = .whole size := by
    rw [sizeOr, if_pos]
    rw [Value.isTruthy, bne_iff_ne]
    omega
  unfold sizeOr at hgiven hsized
  unfold pageOf
  simp only [hgiven, hsized]

/-! ## All pages -/

section

variable {α : Type} {items : List α} {size index : Nat}

theorem itemsOn_succ (items : List α) (size index : Nat) :
    itemsOn items ((index + 1 : Nat) : Int) size = (items.drop (index * size)).take size := by
  have hstart : (((index + 1 : Nat) : Int) - 1) * size = ((index * size : Nat) : Int) := by
    rw [Int.natCast_mul, Int.natCast_succ, Int.add_sub_cancel]
  unfold itemsOn
  dsimp only
  rw [hstart, Int.toNat_natCast]
  split
  next hpast => rw [List.drop_of_length_le (by omega), List.take_nil]
  next hwithin =>
    rw [show (min (size : Int) items.length).toNat = min size items.length by omega]
    rw [List.take_eq_take_iff, List.length_drop]
    omega

theorem flatMap_pages (items : List α) (size count : Nat) :
    ((List.range count).flatMap fun index => (items.drop (index * size)).take size) = items.take (count * size) := by
  induction count with
  | zero => simp
  | succ count ih => rw [List.range_succ, List.flatMap_append, ih, List.flatMap_singleton, Nat.succ_mul, List.take_add]

/-- How many pages a list has. -/
def pageCount (length size : Nat) : Nat := (length + size - 1) / size

theorem lt_pageCount (hsize : 1 ≤ size) (length index : Nat) : index < pageCount length size ↔ index * size < length := by
  rw [pageCount, Nat.lt_iff_add_one_le, Nat.le_div_iff_mul_le hsize, Nat.succ_mul]
  omega

theorem length_le_pageCount (hsize : 1 ≤ size) (length : Nat) : length ≤ pageCount length size * size :=
  Nat.not_lt.mp fun hlt => Nat.lt_irrefl _ ((lt_pageCount hsize length _).mpr hlt)

end

variable {items : List Resource} {size number count : Nat}

/-- The page of a number, with the items that belong on it. -/
def pageAt (items : List Resource) (size number : Nat) : Page where
  items := (items.drop ((number - 1) * size)).take size
  number := .whole number
  size := .whole size
  total := .whole items.length

theorem pageOf_eq_pageAt (items : List Resource) {usual : Quantity} {given : Value}
    (hgiven : sizeOr usual given = .whole size) (hsize : 1 ≤ size) (hnumber : 1 ≤ number) :
    pageOf items usual (.whole number) given = .ok (pageAt items size number) := by
  obtain ⟨index, rfl⟩ := Nat.exists_eq_add_of_le' hnumber
  rw [pageOf_sizeOr items hgiven (by omega), pageOf_whole items usual (by omega) (by omega), itemsOn_succ]
  rfl

/-- **The quotient that is rounded twice is the number of pages.** -/
theorem pages_pageAt (hlength : items.length < 2 ^ 53) (hsize : 1 ≤ size) (hsize' : size ≤ 2 ^ 53) (number : Nat) :
    (pageAt items size number).pages = .ok (pageCount items.length size : Int) := by
  cases hcount : pageCount items.length size with
  | zero =>
    have hempty : items.length = 0 := by
      have := length_le_pageCount hsize items.length
      rw [hcount] at this
      omega
    unfold Page.pages pageAt
    dsimp only
    rw [hempty]
    rfl
  | succ count =>
    have hlow : count * size < items.length := (lt_pageCount hsize _ _).mp (hcount ▸ Nat.lt_succ_self count)
    have hhigh : items.length ≤ (count + 1) * size := hcount ▸ length_le_pageCount hsize items.length
    have hsome : (Value.whole items.length).isTruthy = true := by
      rw [Value.isTruthy, bne_iff_ne]
      omega
    unfold Page.pages pageAt
    dsimp only
    rw [if_pos hsome]
    exact Quantity.ceiling_dividedBy hlength hsize hsize' hlow hhigh

/-- **The pages of a list are a partition of it**: put together they are the list, all of them are full but the last,
which is not empty, and what follows them is empty. Each page knows how long the list is, how many pages there are and
whether the next one has items. -/
structure Page.Partition (items : List Resource) (size count : Nat) (page : Nat → Page) : Prop where
  whole : ((List.range count).flatMap fun index => (page (index + 1)).items) = items
  full : ∀ number, 1 ≤ number → number < count → (page number).items.length = size
  last : 1 ≤ count → (page count).items ≠ [] ∧ (page count).items.length ≤ size
  past : ∀ number, count < number → (page number).items = []
  total : ∀ number, (page number).total = .whole items.length
  pages : ∀ number, (page number).pages = .ok (count : Int)
  next : ∀ number, (page number).hasNext = .ok (decide ((page (number + 1)).items ≠ []))

theorem items_pageAt_eq_nil (hsize : 1 ≤ size) (hnumber : 1 ≤ number) :
    (pageAt items size number).items = [] ↔ pageCount items.length size < number := by
  obtain ⟨index, rfl⟩ := Nat.exists_eq_add_of_le' hnumber
  have hlt := lt_pageCount hsize items.length index
  show List.take size (items.drop (index * size)) = [] ↔ _
  rw [← List.length_eq_zero_iff, List.length_take, List.length_drop]
  omega

theorem partition_pageAt (hlength : items.length < 2 ^ 53) (hsize : 1 ≤ size) (hsize' : size ≤ 2 ^ 53) :
    Page.Partition items size (pageCount items.length size) (pageAt items size) where
  whole := (flatMap_pages items size _).trans (List.take_of_length_le (length_le_pageCount hsize _))
  full number hnumber hwithin := by
    have hlt := (lt_pageCount hsize items.length number).mp hwithin
    have hstart : (number - 1) * size + size = number * size := by
      rw [← Nat.succ_mul, Nat.succ_eq_add_one, Nat.sub_add_cancel hnumber]
    show (List.take size (items.drop ((number - 1) * size))).length = size
    rw [List.length_take, List.length_drop]
    omega
  last hcount := ⟨fun hnil => Nat.lt_irrefl _ ((items_pageAt_eq_nil hsize hcount).mp hnil), List.length_take_le _ _⟩
  past number hpast := (items_pageAt_eq_nil hsize (Nat.one_le_of_lt hpast)).mpr hpast
  total number := rfl
  pages number := pages_pageAt hlength hsize hsize' number
  next number := by
    have hnext : (pageAt items size (number + 1)).items = [] ↔ pageCount items.length size < number + 1 :=
      items_pageAt_eq_nil hsize (Nat.succ_pos number)
    have hbelow : (Quantity.whole number).isBelow (pageCount items.length size) =
        decide ((pageAt items size (number + 1)).items ≠ []) := by
      rw [Quantity.isBelow_whole, decide_eq_decide, ne_eq, hnext]
      omega
    unfold Page.hasNext
    rw [pages_pageAt hlength hsize hsize', ← hbelow]
    rfl

/-! ## Leafing through -/

/-- **What one sees who leafs through pages** from one of them on: that page, and, as long as another one follows,
those behind it. -/
inductive LeafsThrough (turn : Nat → Except Fault Page) : Nat → List Page → Prop
  | last {number : Nat} {page : Page} (shown : turn number = .ok page) (ends : page.hasNext = .ok false) :
    LeafsThrough turn number [page]
  | turns {number : Nat} {page : Page} {rest : List Page} (shown : turn number = .ok page)
    (follows : page.hasNext = .ok true) (behind : LeafsThrough turn (number + 1) rest) :
    LeafsThrough turn number (page :: rest)

namespace LeafsThrough

variable {turn : Nat → Except Fault Page} {page : Nat → Page} {seen seen' : List Page}

theorem unique (h : LeafsThrough turn number seen) (h' : LeafsThrough turn number seen') : seen = seen' := by
  induction h generalizing seen' with
  | last shown ends =>
    cases h' with
    | last shown' _ => rw [Except.ok.inj (shown.symm.trans shown')]
    | turns shown' follows' _ =>
      obtain rfl := Except.ok.inj (shown.symm.trans shown')
      cases ends.symm.trans follows'
  | turns shown follows _ ih =>
    cases h' with
    | last shown' ends' =>
      obtain rfl := Except.ok.inj (shown.symm.trans shown')
      cases follows.symm.trans ends'
    | turns shown' _ behind' => rw [Except.ok.inj (shown.symm.trans shown'), ih behind']

end LeafsThrough

namespace Page.Partition

variable {page : Nat → Page} {turn : Nat → Except Fault Page}

theorem hasNext_eq (h : Partition items size count page) (hsize : 1 ≤ size) (number : Nat) :
    (page number).hasNext = .ok (decide (number < count)) := by
  rw [h.next, Except.ok.injEq, decide_eq_decide]
  refine ⟨fun hsome => Nat.lt_of_not_le fun hpast => hsome (h.past _ (Nat.lt_succ_of_le hpast)), fun hwithin => ?_⟩
  rcases Nat.lt_or_eq_of_le (Nat.succ_le_of_lt hwithin) with hbefore | hlast
  · have hfull := h.full (number + 1) (Nat.succ_pos number) hbefore
    exact List.ne_nil_of_length_pos (hfull ▸ hsize)
  · rw [Nat.succ_eq_add_one] at hlast
    rw [hlast]
    exact (h.last (by omega)).1

theorem leafsThrough_from (h : Partition items size count page) (hsize : 1 ≤ size)
    (hturn : ∀ number, 1 ≤ number → turn number = .ok (page number)) (left : Nat) :
    ∀ number, 1 ≤ number → number + left = max 1 count →
      LeafsThrough turn number ((List.range' number (left + 1)).map page) := by
  induction left with
  | zero =>
    intro number hnumber hlast
    refine .last (hturn number hnumber) ?_
    rw [h.hasNext_eq hsize, decide_eq_false (by omega)]
  | succ left ih =>
    intro number hnumber hleft
    refine .turns (hturn number hnumber) ?_ (ih (number + 1) (by omega) (by omega))
    rw [h.hasNext_eq hsize, decide_eq_true (by omega)]

theorem flatMap_seen (h : Partition items size count page) :
    ((List.range' 1 (max 1 count)).map page).flatMap Page.items = items := by
  cases count with
  | zero =>
    have hnone : items = [] := h.whole.symm
    show (page 1).items ++ [] = items
    rw [h.past 1 Nat.one_pos, hnone, List.append_nil]
  | succ count =>
    rw [Nat.max_eq_right (Nat.succ_pos count), List.flatMap_map, List.range'_eq_map_range, List.flatMap_map]
    simpa only [Nat.add_comm 1] using h.whole

end Page.Partition

/-- **The pages of a list are a partition of it, and leafing through them shows all of it**, each resource once, and
ends. That is so of any list of fewer than `2 ^ 53` resources, and of pages of any size up to that, whether it is asked
for or is the usual one. -/
theorem pages_partition (items : List Resource) {usual : Quantity} {given : Value}
    (hgiven : sizeOr usual given = .whole size) (hlength : items.length < 2 ^ 53) (hsize : 1 ≤ size)
    (hsize' : size ≤ 2 ^ 53) : ∃ (count : Nat) (page : Nat → Page) (seen : List Page),
      (∀ number : Nat, 1 ≤ number → pageOf items usual (.whole number) given = .ok (page number)) ∧
      Page.Partition items size count page ∧
      (∀ seen', LeafsThrough (fun number => pageOf items usual (.whole number) given) 1 seen' ↔ seen' = seen) ∧
      seen.flatMap Page.items = items := by
  have hturn : ∀ number : Nat, 1 ≤ number →
      pageOf items usual (.whole number) given = .ok (pageAt items size number) :=
    fun _ => pageOf_eq_pageAt items hgiven hsize
  have hpages := partition_pageAt hlength hsize hsize'
  have hseen := hpages.leafsThrough_from hsize hturn (max 1 (pageCount items.length size) - 1) 1 (Nat.le_refl 1) (by omega)
  rw [show max 1 (pageCount items.length size) - 1 + 1 = max 1 (pageCount items.length size) by omega] at hseen
  refine ⟨_, _, _, hturn, hpages, fun seen' => ⟨fun hseen' => hseen'.unique hseen, ?_⟩, hpages.flatMap_seen⟩
  rintro rfl
  exact hseen

/-- Resources of some names. -/
def threeResources : List Resource := [{ name := "a" }, { name := "b" }, { name := "c" }]

/-- Three resources on pages of two, which is the usual size: the second page holds the last one, and who leafs through
them sees all three. -/
theorem pages_threeResources : sizeOr (.whole 2) .null = .whole 2 ∧ threeResources.length < 2 ^ 53 ∧
    ∃ page : Page, pageOf threeResources (.whole 2) (.whole 2) .null = .ok page ∧ page.items = [{ name := "c" }] ∧
    page.pages = .ok 2 ∧ page.hasNext = .ok false ∧
    ∃ seen, LeafsThrough (fun number => pageOf threeResources (.whole 2) (.whole number) .null) 1 seen ∧
      seen.flatMap Page.items = threeResources := by
  have hgiven : sizeOr (.whole 2) .null = .whole ((2 : Nat) : Int) := rfl
  obtain ⟨count, page, seen, hturn, hpages, hseen, hall⟩ :=
    pages_partition threeResources hgiven (by decide) (by decide) (by decide)
  have hsecond : page 2 = pageAt threeResources 2 2 := Except.ok.inj ((hturn 2 (by decide)).symm.trans rfl)
  have hcount : (page 2).pages = .ok 2 := hsecond ▸ pages_pageAt (by decide) (by decide) (by decide) 2
  have hends : (page 2).hasNext = .ok false := by
    have hthird : page 3 = pageAt threeResources 2 3 := Except.ok.inj ((hturn 3 (by decide)).symm.trans rfl)
    rw [hpages.next, hthird]
    rfl
  exact ⟨rfl, by decide, page 2, hturn 2 (by decide), hsecond ▸ rfl, hcount, hends, seen, (hseen seen).mpr rfl, hall⟩

end Cutover
