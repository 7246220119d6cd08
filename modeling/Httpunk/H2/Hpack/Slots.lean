import Httpunk.H2.Hpack.Table

/-!
# H2 — Hpack — Slots

The encoder's dynamic table (`Table` of `hpack/table.rs`), which is searched by name: the slots of
one name are chained, from the oldest to the newest.

* `Slots.index`: how a field is found in the table or put in it.
* `Slots.Ok`: what the table is like after any calls; the chain of a name stays in the name.
* `Slots.index_spec`: what an index says, of the table as the decoder has it.

The robin-hood index over the hashes of the slots is the parameter `Probing`: which slots it visits
is open, and what it visits is compared with the name of the field, as in the source.
-/

namespace Httpunk.H2.Hpack

open Httpunk.Eviction

/-- `Slot`, with the count of the insertion that `next` is the slot of. -/
structure Slot where
  header : Header
  next : Option Nat

/-- What is done to the slots, as the index over them follows it. -/
inductive Move where
  | reserve (rawCap : Nat)
  | insert (header : Header)
  | evict (slot : Slot) (prevIdx : Option Nat)
  | clear

/-- The index over the hashes (`indices` and `mask`). -/
structure Probing (ι : Type) where
  /-- The slots that a probe for the field visits before it ends. -/
  visits : ι → Header → List Nat
  moved : ι → Move → ι

/-- `Index`. -/
inductive Index where
  | indexed (idx : Nat) (header : Header)
  | name (idx : Nat) (header : Header)
  | inserted (slot : Nat)
  | insertedValue (idx slot : Nat)
  | notIndexed (header : Header)

/-- `Index::new`. -/
def Index.new (statik : Option (Nat × Bool)) (header : Header) : Index :=
  match statik with
  | none => .notIndexed header
  | some (n, true) => .indexed n header
  | some (n, false) => .name n header

/-- `Table` of the encoder. -/
structure Slots (ι : Type) where
  indices : ι
  /-- `indices.len()`. -/
  rawCap : Nat
  slots : List Slot
  inserted : Nat
  size : Nat
  maxSize : Nat

namespace Slots

variable {ι : Type} (P : Probing ι)

/-- `usable_capacity`. -/
def usableCapacity (cap : Nat) : Nat := cap - cap / 4

/-- `reserve_one`. -/
def reserveOne (t : Slots ι) : Slots ι :=
  if t.slots.length = usableCapacity t.rawCap then
    if t.slots = [] then { t with rawCap := 8, indices := P.moved t.indices (.reserve 8) }
    else { t with rawCap := t.rawCap <<< 1, indices := P.moved t.indices (.reserve (t.rawCap <<< 1)) }
  else t

/-- `converge`, which evicts the oldest slots until the size is within its bound. -/
def converge (prevIdx : Option Nat) (t : Slots ι) : Slots ι :=
  if t.maxSize < t.size then
    if h : t.slots = [] then t
    else converge prevIdx { t with
      slots := t.slots.dropLast
      size := t.size - (t.slots.getLast h).header.len
      indices := P.moved t.indices (.evict (t.slots.getLast h) prevIdx) }
  else t
termination_by t.slots.length
decreasing_by
  have := List.length_pos_iff.mpr h
  simp only [List.length_dropLast]
  omega

/-- `update_size`. -/
def updateSize (t : Slots ι) (len : Nat) (prevIdx : Option Nat) : Slots ι :=
  converge P prevIdx { t with size := t.size + len }

/-- `insert`. -/
def insert (t : Slots ι) (header : Header) : Slots ι :=
  { t with
    inserted := t.inserted + 1
    slots := ⟨header, none⟩ :: t.slots
    indices := P.moved t.indices (.insert header) }

/-- The loop of `index_occupied`: the slot where it ends, and whether the value is there. -/
def chase (t : Slots ι) (header : Header) (realIdx : Nat) : Nat × Bool :=
  match t.slots[realIdx]? with
  | none => (realIdx, false)
  | some slot =>
    if slot.header.valueEq header then (realIdx, true)
    else
      match slot.next with
      | none => (realIdx, false)
      | some next =>
        if t.inserted - next < realIdx then chase t header (t.inserted - next) else (realIdx, false)
termination_by realIdx

/-- The link of a slot to the newest one. -/
def link (t : Slots ι) (realIdx : Nat) : Slots ι :=
  { t with slots := t.slots.modify realIdx fun s => { s with next := some t.inserted } }

/-- `index_occupied`. -/
def indexOccupied (t : Slots ι) (header : Header) (found : Nat) (statik : Option Nat) :
    Slots ι × Index :=
  if (t.chase header found).2 then (t, .indexed ((t.chase header found).1 + 62) header)
  else if header.isSensitive then (t, .name ((t.chase header found).1 + 62) header)
  else
    (link
        (insert P (updateSize P t header.len (some (t.inserted - (t.chase header found).1))) header)
        ((t.chase header found).1 + 1),
      .insertedValue (statik.getD ((t.chase header found).1 + 62)) 0)

/-- `index_vacant`. -/
def indexVacant (t : Slots ι) (header : Header) (statik : Option (Nat × Bool)) : Slots ι × Index :=
  if header.isSensitive then (t, Index.new statik header)
  else
    (insert P (updateSize P t header.len none) header,
      match statik with
      | some (n, _) => .insertedValue n 0
      | none => .inserted 0)

/-- `index_dynamic` once there is room for one slot more. -/
def probe (t : Slots ι) (header : Header) (statik : Option (Nat × Bool)) : Slots ι × Index :=
  if t.rawCap = 0 then (t, Index.new statik header)
  else
    match (P.visits t.indices header).find? fun i =>
      t.slots[i]?.any fun s => s.header.name == header.name with
    | some found => indexOccupied P t header found (statik.map Prod.fst)
    | none => indexVacant P t header statik

/-- `index_dynamic`. -/
def indexDynamic (t : Slots ι) (header : Header) (statik : Option (Nat × Bool)) :
    Slots ι × Index :=
  probe P (if header.len + t.size < t.maxSize ∨ header.isSensitive = false then reserveOne P t else t)
    header statik

/-- `index`. -/
def index (t : Slots ι) (header : Header) : Slots ι × Index :=
  if header.skipValueIndex then (t, Index.new (indexStatic header) header)
  else
    match indexStatic header with
    | some (n, true) => (t, .indexed n header)
    | statik =>
      if t.maxSize * 3 < header.len * 4 then (t, Index.new statik header)
      else indexDynamic P t header statik

/-- `resize`. -/
def resize (t : Slots ι) (size : Nat) : Slots ι :=
  if size = 0 then
    { t with
      maxSize := 0, size := 0, slots := [], inserted := 0, indices := P.moved t.indices .clear }
  else converge P none { t with maxSize := size }

/-- The table as the decoder has it. -/
def view (t : Slots ι) : Table := ⟨t.slots.map Slot.header, t.size, t.maxSize⟩

/-- Every link leads from a slot to a newer one of its name. -/
def Linked (t : Slots ι) : Prop :=
  ∀ (i : Nat) (s : Slot) (next : Nat), t.slots[i]? = some s → s.next = some next →
    ∃ j s', j < i ∧ t.inserted = next + j ∧ t.slots[j]? = some s' ∧ s'.header.name = s.header.name

/-- What the table is like after any calls. -/
structure Ok (t : Slots ι) : Prop where
  view_ok : t.view.Ok
  /-- No value that is sensitive was put in. -/
  plain : ∀ s ∈ t.slots, s.header.isSensitive = false
  linked : t.Linked

/-! ### Evictions -/

/-- The table with the slots that fit a budget; what the index over them is, is open. -/
def Cut (t : Slots ι) (budget : Nat) (t' : Slots ι) : Prop :=
  t'.slots = fit (fun s => s.header.len) budget t.slots ∧
    t'.size = total (fun s => s.header.len) t'.slots + (t.maxSize - budget) ∧
    t'.maxSize = t.maxSize ∧ t'.inserted = t.inserted

/-- The loop of `converge` leaves what fits beside the size that is not of the slots. -/
theorem converge_cut (prevIdx : Option Nat) (t : Slots ι) (beside : Nat) (within : beside ≤ t.maxSize)
    (size_eq : t.size = total (fun s => s.header.len) t.slots + beside) :
    Cut t (t.maxSize - beside) (t.converge P prevIdx) := by
  obtain ⟨indices, rawCap, slots, inserted, size, maxSize⟩ := t
  obtain rfl : size = total (fun s => s.header.len) slots + beside := size_eq
  have bound : maxSize - (maxSize - beside) = beside := Nat.sub_sub_self within
  induction slots using List.reverseRecOn generalizing indices with
  | nil =>
    rw [converge.eq_def]
    split <;> simp [Cut, fit, bound]
  | append_singleton l a ih =>
    rw [converge.eq_def]
    split
    · next exceeds =>
      have left : total (fun s : Slot => s.header.len) (l ++ [a]) + beside - a.header.len =
          total (fun s => s.header.len) l + beside := by
        simp only [total_append, total_cons, total_nil]
        omega
      rw [dif_neg (by simp)]
      simp only [List.dropLast_concat, List.getLast_append_singleton, left]
      obtain ⟨slots, size, max, ins⟩ := ih (P.moved indices (.evict a prevIdx)) within
      refine ⟨?_, size, max, ins⟩
      rw [fit_concat _ _ _ _ (by simp only at exceeds; omega)]
      exact slots
    · next under =>
      simp only [not_lt] at under
      refine ⟨?_, ?_, rfl, rfl⟩
      · rw [fit_of_le _ _ _ (by simp only; omega)]
      · simp only [bound]

theorem view_entries (t : Slots ι) : t.view.entries = t.slots.map Slot.header := rfl

theorem slots_total (t : Slots ι) :
    total Header.len t.view.entries = total (fun s => s.header.len) t.slots :=
  total_map Header.len Slot.header t.slots

theorem Linked.of_isPrefix {t t' : Slots ι} (linked : t.Linked) (pre : t'.slots <+: t.slots)
    (ins : t'.inserted = t.inserted) : t'.Linked := by
  intro i s next at_i is_next
  obtain ⟨tail, whole⟩ := pre
  have short := (List.getElem?_eq_some_iff.mp at_i).1
  have at_whole : t.slots[i]? = some s := by
    rw [← whole, List.getElem?_append_left short, at_i]
  obtain ⟨j, s', older, count, at_j, named⟩ := linked i s next at_whole is_next
  refine ⟨j, s', older, ins.trans count, ?_, named⟩
  rwa [← whole, List.getElem?_append_left (older.trans short)] at at_j

/-- What is left by `converge` beside an entry, as the decoder's table is left by `reserve`. -/
theorem Cut.view_eq {t t' : Slots ι} {budget : Nat} (cut : Cut t budget t') :
    t'.view = ⟨(t.view.cut budget).entries, (t.view.cut budget).size + (t.maxSize - budget),
      t.maxSize⟩ := by
  obtain ⟨slots, size, max, -⟩ := cut
  have entries : t'.slots.map Slot.header = fit Header.len budget (t.slots.map Slot.header) := by
    rw [slots, fit_map Header.len Slot.header]
  rw [view, entries, max, size, ← slots_total t', view_entries, entries]
  rfl

theorem Cut.isPrefix {t t' : Slots ι} {budget : Nat} (cut : Cut t budget t') :
    t'.slots <+: t.slots := by
  rw [cut.1]
  exact fit_isPrefix _ _ _

/-- What is kept of the table when only its end was cut. -/
theorem Cut.kept {t t' : Slots ι} {budget : Nat} (cut : Cut t budget t')
    (plain : ∀ s ∈ t.slots, s.header.isSensitive = false) (linked : t.Linked) :
    (∀ s ∈ t'.slots, s.header.isSensitive = false) ∧ t'.Linked :=
  ⟨fun s mem => plain s (cut.isPrefix.subset mem), linked.of_isPrefix cut.isPrefix cut.2.2.2⟩

theorem Ok.congr {t t' : Slots ι} (ok : t.Ok) (slots : t'.slots = t.slots)
    (ins : t'.inserted = t.inserted) (size : t'.size = t.size) (max : t'.maxSize = t.maxSize) :
    t'.Ok := by
  refine ⟨?_, ?_, ?_⟩
  · have same : t'.view = t.view := by simp only [view, slots, size, max]
    exact same ▸ ok.view_ok
  · exact slots ▸ ok.plain
  · exact ok.linked.of_isPrefix (slots ▸ List.prefix_rfl) ins

/-! ### Insertions -/

/-- The slot of the name with the oldest slots gone, one insertion later. -/
theorem Linked.insert {t : Slots ι} (linked : t.Linked) (h : Header) : (t.insert P h).Linked := by
  intro i s next at_i is_next
  cases i with
  | zero =>
    obtain rfl : (⟨h, none⟩ : Slot) = s := by simpa [Slots.insert] using at_i
    cases is_next
  | succ i =>
    have at_old : t.slots[i]? = some s := by simpa [Slots.insert] using at_i
    obtain ⟨j, s', older, count, at_j, named⟩ := linked i s next at_old is_next
    exact ⟨j + 1, s', Nat.succ_lt_succ older, by simp only [Slots.insert]; omega,
      by simpa [Slots.insert] using at_j, named⟩

/-- A slot may be linked to the newest one if it has the same name. -/
theorem Linked.link {t : Slots ι} (linked : t.Linked) {newest : Slot} {realIdx : Nat}
    (at_zero : t.slots[0]? = some newest) (later : 0 < realIdx)
    (named : ∀ s, t.slots[realIdx]? = some s → s.header.name = newest.header.name) :
    (t.link realIdx).Linked := by
  have header_at {j : Nat} {s : Slot} (h : t.slots[j]? = some s) :
      ∃ s', (t.link realIdx).slots[j]? = some s' ∧ s'.header = s.header := by
    simp only [Slots.link, List.getElem?_modify, h, Option.map_eq_map, Option.map_some]
    split <;> exact ⟨_, rfl, rfl⟩
  intro i s next at_i is_next
  simp only [Slots.link, List.getElem?_modify, Option.map_eq_map, Option.map_eq_some_iff] at at_i
  obtain ⟨old, at_old, rfl⟩ := at_i
  by_cases here : realIdx = i
  · subst here
    simp only [if_true, Option.some.injEq] at is_next ⊢
    obtain ⟨s', at_s', header⟩ := header_at at_zero
    exact ⟨0, s', later, by simp [Slots.link, ← is_next], at_s', by rw [header, named _ at_old]⟩
  · simp only [if_neg here] at is_next ⊢
    obtain ⟨j, s', older, count, at_j, same⟩ := linked i old next at_old is_next
    obtain ⟨s'', at_s'', header⟩ := header_at at_j
    exact ⟨j, s'', older, count, at_s'', by rw [header, same]⟩

@[simp] theorem view_link (t : Slots ι) (realIdx : Nat) : (t.link realIdx).view = t.view := by
  have same : (t.slots.modify realIdx fun s => { s with next := some t.inserted }).map
      Slot.header = t.slots.map Slot.header := by
    apply List.ext_getElem?
    intro i
    simp only [List.getElem?_map, List.getElem?_modify, Option.map_eq_map, Option.map_map]
    congr 1
    funext s
    simp only [Function.comp_apply]
    split <;> rfl
  simp only [view, link, same]

/-- A field that fits is put before the slots that fit beside it, as the decoder does. -/
theorem insert_updateSize {t : Slots ι} (ok : t.Ok) {h : Header} (unmarked : h.isSensitive = false)
    (fits : h.len ≤ t.maxSize) (prevIdx : Option Nat) :
    ((t.updateSize P h.len prevIdx).insert P h).view = t.view.insert h ∧
      ((t.updateSize P h.len prevIdx).insert P h).Ok ∧
      (t.updateSize P h.len prevIdx).slots <+: t.slots := by
  have size_eq : t.size + h.len = total (fun s => s.header.len) t.slots + h.len := by
    rw [← slots_total, ← ok.view_ok.size_eq]
    rfl
  have cut : Cut { t with size := t.size + h.len } (t.maxSize - h.len)
      (t.updateSize P h.len prevIdx) := converge_cut P prevIdx _ h.len fits size_eq
  have whole : ((t.updateSize P h.len prevIdx).insert P h).view = t.view.insert h := by
    have left : (t.updateSize P h.len prevIdx).view =
        ⟨(t.view.cut (t.maxSize - h.len)).entries,
          (t.view.cut (t.maxSize - h.len)).size + h.len, t.maxSize⟩ := by
      rw [cut.view_eq]
      simp only [Nat.sub_sub_self fits]
      rfl
    rw [Table.insert_eq ok.view_ok fits]
    simp only [view, Table.mk.injEq, insert, List.map_cons] at left ⊢
    exact ⟨by rw [left.1], left.2.1, left.2.2⟩
  obtain ⟨plain, linked⟩ := cut.kept ok.plain ok.linked
  refine ⟨whole, ⟨?_, ?_, linked.insert P h⟩, cut.isPrefix⟩
  · rw [whole]
    exact Table.insert_ok ok.view_ok h
  · simp only [insert, List.mem_cons, forall_eq_or_imp]
    exact ⟨unmarked, plain⟩

/-- A smaller or larger table keeps the slots that fit, as the decoder's does. -/
theorem resize_spec {t : Slots ι} (ok : t.Ok) (size : Nat) :
    (t.resize P size).view = t.view.setMaxSize size ∧ (t.resize P size).Ok := by
  have entries := slots_total t
  rw [Table.setMaxSize_eq ok.view_ok]
  by_cases none : size = 0
  · subst none
    have empty : (t.resize P 0).view = ({ t.view with maxSize := 0 } : Table).cut 0 := by
      simp only [Table.cut, fit_zero Header.len Header.len_pos]
      rfl
    refine ⟨empty, ?_, by simp [resize], by simp [resize, Linked]⟩
    rw [empty]
    exact Table.cut_ok _ le_rfl
  · have size_eq : t.size = total (fun s => s.header.len) t.slots + 0 := by
      rw [← slots_total, ← ok.view_ok.size_eq]
      rfl
    have cut : Cut { t with maxSize := size } size (t.resize P size) := by
      simp only [resize, if_neg none]
      exact converge_cut P .none { t with maxSize := size } 0 (Nat.zero_le _) size_eq
    have whole : (t.resize P size).view = ({ t.view with maxSize := size } : Table).cut size := by
      rw [cut.view_eq]
      simp only [Nat.sub_self, Nat.add_zero]
      rfl
    obtain ⟨plain, linked⟩ := cut.kept ok.plain ok.linked
    refine ⟨whole, ?_, plain, linked⟩
    rw [whole]
    exact Table.cut_ok _ le_rfl

/-! ### What is found -/

/-- The chain of a name stays in the name, and ends at the value where it says so. -/
theorem chase_spec {t : Slots ι} (linked : t.Linked) (h : Header) (realIdx : Nat) (s : Slot)
    (found : t.slots[realIdx]? = some s) (named : s.header.name = h.name) :
    ∃ s', t.slots[(t.chase h realIdx).1]? = some s' ∧ s'.header.name = h.name ∧
      ((t.chase h realIdx).2 = true → s'.header.valueEq h = true) := by
  induction realIdx using Nat.strong_induction_on generalizing s with
  | _ realIdx ih =>
    rw [chase.eq_def, found]
    by_cases same : s.header.valueEq h
    · simp only [same, if_true]
      exact ⟨s, found, named, fun _ => same⟩
    · simp only [same, Bool.false_eq_true, if_false]
      cases link : s.next with
      | none => exact ⟨s, found, named, by simp⟩
      | some next =>
        obtain ⟨j, s', older, count, at_j, same_name⟩ := linked realIdx s next found link
        have real : t.inserted - next = j := by omega
        simp only [real, older, if_true]
        exact ih j older s' at_j (same_name.trans named)

/-- A field with the name and the value of another, but for the mark, is the other. -/
theorem eq_plain {h e : Header} (unmarked : e.isSensitive = false) (named : e.name = h.name)
    (same : e.valueEq h = true) : e = h.plain := by
  cases e <;> cases h <;>
    simp_all [Header.name, Header.valueEq, Header.plain, Header.isSensitive]

/-- A slot is the decoder's entry behind the static table. -/
theorem get_slot {t : Slots ι} {i : Nat} {s : Slot} (found : t.slots[i]? = some s) :
    t.view.get (i + 62) = .ok s.header := by
  simp [Table.get, view, found]

/-- What an index says of the table that it was made on, and what the table is then. -/
inductive Indexed (v : Table) (h : Header) : Slots ι × Index → Prop where
  | indexed {t' : Slots ι} {idx : Nat} (get : v.get idx = .ok h.plain)
      (same : t'.view = v) : Indexed v h (t', .indexed idx h)
  | name {t' : Slots ι} {idx : Nat} {e : Header} (get : v.get idx = .ok e)
      (named : e.name = h.name) (same : t'.view = v) : Indexed v h (t', .name idx h)
  | notIndexed {t' : Slots ι} (same : t'.view = v) : Indexed v h (t', .notIndexed h)
  | insertedValue {t' : Slots ι} {idx : Nat} {e : Header} (get : v.get idx = .ok e)
      (named : e.name = h.name) (unmarked : h.isSensitive = false) (fits : h.len ≤ v.maxSize)
      (put : t'.view = v.insert h) : Indexed v h (t', .insertedValue idx 0)
  | inserted {t' : Slots ι} (unmarked : h.isSensitive = false) (fits : h.len ≤ v.maxSize)
      (put : t'.view = v.insert h) : Indexed v h (t', .inserted 0)

theorem get_static {t : Table} {h : Header} {n : Nat} {full : Bool}
    (found : indexStatic h = some (n, full)) : t.get n = .ok (getStatic n) := by
  obtain ⟨pos, last, -⟩ := static_name found
  rw [Table.get, if_neg (by omega), if_pos last]

/-- Without the dynamic table an index is by the static one. -/
theorem new_spec {v : Table} {t : Slots ι} (h : Header) (same : t.view = v) :
    Indexed v h (t, Index.new (indexStatic h) h) := by
  cases found : indexStatic h with
  | none => exact .notIndexed same
  | some pair =>
    obtain ⟨n, full⟩ := pair
    cases full with
    | true => exact .indexed (by rw [get_static found, static_full found]) same
    | false => exact .name (get_static found) (static_name found).2.2 same

theorem indexOccupied_spec {t : Slots ι} (ok : t.Ok) {h : Header} (fits : h.len ≤ t.maxSize)
    {found : Nat} {s : Slot} (at_found : t.slots[found]? = some s) (named : s.header.name = h.name) :
    Indexed t.view h (t.indexOccupied P h found ((indexStatic h).map Prod.fst)) ∧
      (t.indexOccupied P h found ((indexStatic h).map Prod.fst)).1.Ok := by
  obtain ⟨last, at_last, last_named, matched⟩ := chase_spec ok.linked h found s at_found named
  have unmarked_last := ok.plain last (List.mem_of_getElem? at_last)
  rw [indexOccupied]
  split
  · next full =>
    refine ⟨.indexed ?_ rfl, ok⟩
    rw [get_slot at_last, eq_plain unmarked_last last_named (matched full)]
  · split
    · exact ⟨.name (get_slot at_last) last_named rfl, ok⟩
    · next clear =>
      have unmarked : h.isSensitive = false := by simpa using clear
      obtain ⟨put, inserted, pre⟩ := insert_updateSize P ok unmarked fits
        (some (t.inserted - (t.chase h found).1))
      refine ⟨?_, ?_⟩
      · cases statik : indexStatic h with
        | none =>
          exact .insertedValue (get_slot at_last) last_named unmarked fits
            ((view_link _ _).trans put)
        | some pair =>
          obtain ⟨n, same⟩ := pair
          exact .insertedValue (get_static statik) (static_name statik).2.2 unmarked fits
            ((view_link _ _).trans put)
      · refine ⟨?_, ?_, ?_⟩
        · rw [view_link]
          exact inserted.view_ok
        · intro slot mem
          obtain ⟨i, at_i⟩ := List.mem_iff_getElem?.mp mem
          simp only [link, List.getElem?_modify, Option.map_eq_map, Option.map_eq_some_iff] at at_i
          obtain ⟨old, at_old, rfl⟩ := at_i
          have := inserted.plain old (List.mem_of_getElem? at_old)
          split <;> exact this
        · refine @Linked.link ι _ inserted.linked ⟨h, none⟩ _ rfl (Nat.succ_pos _) ?_
          intro slot at_slot
          -- the slot that the chain ended at, unless it was evicted
          have before : (t.updateSize P h.len (some (t.inserted - (t.chase h found).1))).slots[
              (t.chase h found).1]? = some slot := by simpa [insert] using at_slot
          obtain ⟨tail, whole⟩ := pre
          have short := (List.getElem?_eq_some_iff.mp before).1
          rw [← whole, List.getElem?_append_left short, before] at at_last
          cases at_last
          exact last_named

theorem indexVacant_spec {t : Slots ι} (ok : t.Ok) {h : Header} (fits : h.len ≤ t.maxSize) :
    Indexed t.view h (t.indexVacant P h (indexStatic h)) ∧
      (t.indexVacant P h (indexStatic h)).1.Ok := by
  rw [indexVacant.eq_def]
  split
  · exact ⟨new_spec h rfl, ok⟩
  · next clear =>
    have unmarked : h.isSensitive = false := by simpa using clear
    obtain ⟨put, inserted, -⟩ := insert_updateSize P ok unmarked fits none
    refine ⟨?_, inserted⟩
    cases statik : indexStatic h with
    | none => exact .inserted unmarked fits put
    | some pair =>
      obtain ⟨n, same⟩ := pair
      exact .insertedValue (get_static statik) (static_name statik).2.2 unmarked fits put

theorem probe_spec {t : Slots ι} (ok : t.Ok) {h : Header} (fits : h.len ≤ t.maxSize) :
    Indexed t.view h (t.probe P h (indexStatic h)) ∧ (t.probe P h (indexStatic h)).1.Ok := by
  rw [probe]
  split
  · exact ⟨new_spec h rfl, ok⟩
  · cases visited : (P.visits t.indices h).find? fun i =>
        t.slots[i]?.any fun s => s.header.name == h.name with
    | none => exact indexVacant_spec P ok fits
    | some found =>
      have there := List.find?_some visited
      simp only [Option.any_eq_true, beq_iff_eq] at there
      obtain ⟨s, at_found, named⟩ := there
      exact indexOccupied_spec P ok fits at_found named

/-- What an index says holds of every table, and keeps what the table is like. -/
theorem index_spec {t : Slots ι} (ok : t.Ok) (h : Header) :
    Indexed t.view h (t.index P h) ∧ (t.index P h).1.Ok := by
  rw [index]
  split
  · exact ⟨new_spec h rfl, ok⟩
  · split
    · next n statik =>
      exact ⟨.indexed (by rw [get_static statik, static_full statik]) rfl, ok⟩
    · split
      · exact ⟨new_spec h rfl, ok⟩
      · next small =>
        have fits : h.len ≤ t.maxSize := by omega
        rw [indexDynamic]
        split
        · have reserved : (t.reserveOne P).Ok := by
            rw [reserveOne]
            split_ifs <;> first | exact ok | exact ok.congr rfl rfl rfl rfl
          have same : (t.reserveOne P).view = t.view := by
            rw [reserveOne]
            split_ifs <;> rfl
          have max : h.len ≤ (t.reserveOne P).view.maxSize := by
            rw [same]
            exact fits
          rw [← same]
          exact probe_spec P reserved max
        · exact probe_spec P ok fits

end Slots

end Httpunk.H2.Hpack
