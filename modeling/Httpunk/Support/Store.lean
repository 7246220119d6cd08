import Mathlib

/-!
# Support — Store

A finite map with a measure.  `Store κ β` is Mathlib's `AList` at a constant family, read as a
hash map whose iteration order is the order of its entries.

* `Store.total w m` adds the weight `w k v` of every entry.  `total_insert` and `total_erase`
  say what one update does to it, and `total_perm` that the order of the entries does not
  matter.
* `Store.mapVals` changes every value in place, and `Store.scan` does so until an update
  fails, as a loop over `values_mut()` with an early return does; `scan_spec` reads the second
  as the first.
-/

/-- A finite map from `κ` to `β`. -/
abbrev Store (κ : Type) [DecidableEq κ] (β : Type) : Type := AList (fun _ : κ => β)

namespace Store

variable {κ β ε : Type} [DecidableEq κ]

/-! ### Lookups and keys -/

theorem mem_of_lookup {m : Store κ β} {k : κ} {v : β} (h : m.lookup k = some v) : k ∈ m :=
  AList.lookup_isSome.mp (by rw [h]; rfl)

theorem lookup_of_mem {m : Store κ β} {k : κ} (h : k ∈ m) : ∃ v, m.lookup k = some v :=
  Option.isSome_iff_exists.mp (AList.lookup_isSome.mpr h)

theorem erase_of_lookup_none {m : Store κ β} {k : κ} (h : m.lookup k = none) :
    m.erase k = m :=
  AList.ext (List.kerase_of_notMem_keys (AList.lookup_eq_none.mp h))

/-- A lookup after an insertion, at any key. -/
theorem lookup_insert' (m : Store κ β) (k a : κ) (v : β) :
    (m.insert k v).lookup a = if a = k then some v else m.lookup a := by
  by_cases e : a = k
  · subst e; rw [if_pos rfl, AList.lookup_insert]
  · rw [if_neg e, AList.lookup_insert_ne e]

/-- A lookup after an erasure, at any key. -/
theorem lookup_erase' (m : Store κ β) (k a : κ) :
    (m.erase k).lookup a = if a = k then none else m.lookup a := by
  by_cases e : a = k
  · subst e; rw [if_pos rfl, AList.lookup_erase]
  · rw [if_neg e, AList.lookup_erase_ne e]

/-- An entry that is stored can be moved to the front. -/
theorem entries_perm_of_lookup {m : Store κ β} {k : κ} {v : β} (h : m.lookup k = some v) :
    m.entries.Perm (⟨k, v⟩ :: (m.erase k).entries) := by
  obtain ⟨b, l₁, l₂, -, hl, he⟩ := List.exists_of_kerase (AList.mem_keys.mp (mem_of_lookup h))
  have hb : m.lookup k = some b :=
    AList.mem_lookup_iff.mpr (by rw [hl]; simp)
  rw [h] at hb
  cases hb
  have hr : (m.erase k).entries = l₁ ++ l₂ := he
  rw [hl, hr]
  exact List.perm_middle

/-! ### The total of a measure -/

/-- The sum of `w k v` over the entries. -/
def total (w : κ → β → Nat) (m : Store κ β) : Nat :=
  (m.entries.map fun p => w p.1 p.2).sum

theorem total_perm {w : κ → β → Nat} {m m' : Store κ β} (h : m.entries.Perm m'.entries) :
    m.total w = m'.total w :=
  (h.map _).sum_eq

@[simp] theorem total_empty (w : κ → β → Nat) : (∅ : Store κ β).total w = 0 := rfl

theorem total_erase {w : κ → β → Nat} {m : Store κ β} {k : κ} {v : β}
    (h : m.lookup k = some v) : total w (m.erase k) + w k v = m.total w := by
  have hp := ((entries_perm_of_lookup h).map fun p => w p.1 p.2).sum_eq
  simp only [List.map_cons, List.sum_cons] at hp
  unfold total
  omega

theorem total_insert_new {w : κ → β → Nat} {m : Store κ β} {k : κ} {v : β}
    (h : m.lookup k = none) : total w (m.insert k v) = m.total w + w k v := by
  unfold total
  rw [AList.entries_insert_of_notMem (AList.lookup_eq_none.mp h)]
  simp only [List.map_cons, List.sum_cons]
  omega

/-- Replacing a value moves the total by the difference of its weights. -/
theorem total_insert {w : κ → β → Nat} {m : Store κ β} {k : κ} {v u : β}
    (h : m.lookup k = some v) : total w (m.insert k u) + w k v = m.total w + w k u := by
  have he : m.insert k u = (m.erase k).insert k u := by
    apply AList.ext
    rw [AList.entries_insert, AList.entries_insert]
    exact congrArg _ (congrArg AList.entries
      (erase_of_lookup_none (AList.lookup_erase k m))).symm
  rw [he, total_insert_new (AList.lookup_erase k m), ← total_erase (w := w) h]
  omega

theorem total_insert_same {w : κ → β → Nat} {m : Store κ β} {k : κ} {v u : β}
    (h : m.lookup k = some v) (hw : w k u = w k v) :
    total w (m.insert k u) = m.total w := by
  have := total_insert (w := w) (u := u) h
  omega

theorem weight_le_total {w : κ → β → Nat} {m : Store κ β} {k : κ} {v : β}
    (h : m.lookup k = some v) : w k v ≤ m.total w := by
  have := total_erase (w := w) h
  omega

/-- The keys of a set that weigh one at least are no more than the total. -/
theorem card_le_total {w : κ → β → Nat} {m : Store κ β} {S : Finset κ}
    (h : ∀ k ∈ S, ∃ v, m.lookup k = some v ∧ 1 ≤ w k v) : S.card ≤ m.total w := by
  induction S using Finset.induction_on generalizing m with
  | empty => exact Nat.zero_le _
  | insert k S hk ih =>
      obtain ⟨v, hv, hw⟩ := h k (Finset.mem_insert_self k S)
      have hrest : S.card ≤ total w (m.erase k) := ih fun j hj => by
        obtain ⟨u, hu, hwu⟩ := h j (Finset.mem_insert_of_mem hj)
        refine ⟨u, ?_, hwu⟩
        have hne : j ≠ k := fun e => hk (e ▸ hj)
        rw [AList.lookup_erase_ne hne]
        exact hu
      rw [Finset.card_insert_of_notMem hk, ← total_erase (w := w) hv]
      omega

theorem total_congr {w w' : κ → β → Nat} {m : Store κ β}
    (h : ∀ k v, m.lookup k = some v → w k v = w' k v) : m.total w = m.total w' := by
  unfold total
  congr 1
  refine List.map_congr_left fun p hp => h p.1 p.2 ?_
  exact AList.mem_lookup_iff.mpr hp

theorem total_eq_zero {w : κ → β → Nat} {m : Store κ β} :
    m.total w = 0 ↔ ∀ k v, m.lookup k = some v → w k v = 0 := by
  constructor
  · intro h k v hk
    have := weight_le_total (w := w) hk
    omega
  · intro h
    unfold total
    refine List.sum_eq_zero fun x hx => ?_
    obtain ⟨p, hp, rfl⟩ := List.mem_map.mp hx
    exact h p.1 p.2 (AList.mem_lookup_iff.mpr hp)

/-! ### Keeping some entries -/

/-- The entries that satisfy `p`. -/
def retain (p : κ → β → Bool) (m : Store κ β) : Store κ β :=
  ⟨m.entries.filter fun x => p x.1 x.2, m.nodupKeys.sublist List.filter_sublist⟩

/-! ### Changing every value -/

/-- Every value changed in place, by a function of its key and the value. -/
def mapVals (f : κ → β → β) (m : Store κ β) : Store κ β where
  entries := m.entries.map fun p => ⟨p.1, f p.1 p.2⟩
  nodupKeys := by
    have h : (m.entries.map fun p => (⟨p.1, f p.1 p.2⟩ : Σ _ : κ, β)).keys = m.entries.keys := by
      simp [List.keys, Function.comp_def]
    rw [List.NodupKeys, h]
    exact m.nodupKeys

theorem lookup_mapVals (f : κ → β → β) (m : Store κ β) (k : κ) :
    (m.mapVals f).lookup k = (m.lookup k).map (f k) :=
  List.dlookup_map₂ (γ := fun _ => β) (δ := fun _ => β) (f := f) k

theorem total_mapVals (w : κ → β → Nat) (f : κ → β → β) (m : Store κ β) :
    total w (m.mapVals f) = m.total fun k v => w k (f k v) := by
  simp [total, mapVals, Function.comp_def]

theorem total_mapVals_same {w : κ → β → Nat} {f : κ → β → β} {m : Store κ β}
    (h : ∀ k v, m.lookup k = some v → w k (f k v) = w k v) :
    total w (m.mapVals f) = m.total w :=
  (total_mapVals w f m).trans (total_congr h)

theorem same_perm {m m' : Store κ β} (h : ∀ k, m.lookup k = m'.lookup k) :
    m.entries.Perm m'.entries :=
  List.lookup_ext m.nodupKeys m'.nodupKeys fun k v => by
    have hk : m.entries.dlookup k = m'.entries.dlookup k := h k
    rw [hk]

/-- **The total is a fact about the lookups.**  Stores with the same keys, and the same weight
at each, have the same total. -/
theorem total_of_lookup {w : κ → β → Nat} {m m' : Store κ β}
    (stored : ∀ k v, m.lookup k = some v → ∃ v', m'.lookup k = some v' ∧ w k v' = w k v)
    (absent : ∀ k, m.lookup k = none → m'.lookup k = none) : m'.total w = m.total w := by
  have hs : ∀ k, m'.lookup k = (m.mapVals fun k v => (m'.lookup k).getD v).lookup k := by
    intro k
    rw [lookup_mapVals]
    rcases h : m.lookup k with _ | v
    · rw [absent k h]; rfl
    · obtain ⟨v', hv', -⟩ := stored k v h
      rw [hv']; rfl
  rw [total_perm (same_perm hs)]
  refine total_mapVals_same fun k v h => ?_
  obtain ⟨v', hv', hw⟩ := stored k v h
  rw [hv']
  exact hw

/-- The entries of `scan`: each value is replaced by what `f` makes of it, up to and including
the first for which `f` reports an error. -/
def scanEntries (f : κ → β → β × Option ε) :
    List (Σ _ : κ, β) → List (Σ _ : κ, β) × Option ε
  | [] => ([], none)
  | p :: ps =>
    match f p.1 p.2 with
    | (v, some e) => (⟨p.1, v⟩ :: ps, some e)
    | (v, none) => (⟨p.1, v⟩ :: (scanEntries f ps).1, (scanEntries f ps).2)

omit [DecidableEq κ] in
theorem keys_scanEntries (f : κ → β → β × Option ε) (ps : List (Σ _ : κ, β)) :
    (scanEntries f ps).1.keys = ps.keys := by
  induction ps with
  | nil => rfl
  | cons p ps ih =>
      rcases h : f p.1 p.2 with ⟨v, _ | e⟩
      · simp only [scanEntries, h, List.keys_cons, ih]
      · simp only [scanEntries, h, List.keys_cons]

/-- A loop over the values that stops at the first error. -/
def scan (f : κ → β → β × Option ε) (m : Store κ β) : Store κ β × Option ε :=
  (⟨(scanEntries f m.entries).1, by
    rw [List.NodupKeys, keys_scanEntries]; exact m.nodupKeys⟩, (scanEntries f m.entries).2)

/-- The keys a `scan` reached: all of them when it met no error. -/
def scanned (f : κ → β → β × Option ε) : List (Σ _ : κ, β) → List κ
  | [] => []
  | p :: ps => if (f p.1 p.2).2.isSome then [p.1] else p.1 :: scanned f ps

theorem scanEntries_eq (f : κ → β → β × Option ε) {ps : List (Σ _ : κ, β)}
    (hn : ps.keys.Nodup) :
    (scanEntries f ps).1 =
      ps.map fun p => ⟨p.1, if p.1 ∈ scanned f ps then (f p.1 p.2).1 else p.2⟩ := by
  induction ps with
  | nil => rfl
  | cons p ps ih =>
      obtain ⟨hp, hps⟩ := List.nodup_cons.mp hn
      have hne : ∀ q ∈ ps, q.1 ≠ p.1 := fun q hq e => hp (e ▸ List.mem_map_of_mem hq)
      rcases h : f p.1 p.2 with ⟨v, _ | e⟩
      · simp only [scanEntries, h, ih hps, scanned, Option.isSome_none, List.map_cons]
        refine List.cons_eq_cons.mpr ⟨by simp, List.map_congr_left fun q hq => ?_⟩
        simp [hne q hq]
      · simp only [scanEntries, h, scanned, Option.isSome_some, List.map_cons]
        refine List.cons_eq_cons.mpr ⟨by simp, ?_⟩
        refine (List.map_id _).symm.trans (List.map_congr_left fun q hq => ?_)
        simp [hne q hq]

/-- **A scan is a map over the keys it reached.** -/
theorem scan_eq (f : κ → β → β × Option ε) (m : Store κ β) :
    (m.scan f).1 =
      m.mapVals fun k v => if k ∈ scanned f m.entries then (f k v).1 else v :=
  AList.ext (scanEntries_eq f m.nodupKeys)

omit [DecidableEq κ] in
theorem scanned_of_ok {f : κ → β → β × Option ε} {ps : List (Σ _ : κ, β)}
    (h : (scanEntries f ps).2 = none) : scanned f ps = ps.keys := by
  induction ps with
  | nil => rfl
  | cons p ps ih =>
      rcases hf : f p.1 p.2 with ⟨v, _ | e⟩
      · simp only [scanEntries, hf] at h
        simp [scanned, hf, ih h]
      · simp [scanEntries, hf] at h

omit [DecidableEq κ] in
/-- The error a scan reports is one `f` gave for an entry. -/
theorem scanEntries_error {f : κ → β → β × Option ε} {ps : List (Σ _ : κ, β)} {e : ε}
    (h : (scanEntries f ps).2 = some e) : ∃ p ∈ ps, (f p.1 p.2).2 = some e := by
  induction ps with
  | nil => cases h
  | cons p ps ih =>
      rcases hf : f p.1 p.2 with ⟨v, _ | e'⟩
      · simp only [scanEntries, hf] at h
        obtain ⟨q, hq, he⟩ := ih h
        exact ⟨q, .tail _ hq, he⟩
      · simp only [scanEntries, hf] at h
        exact ⟨p, .head _, by rw [hf]; exact h⟩

omit [DecidableEq κ] in
theorem scanEntries_none {f : κ → β → β × Option ε} {ps : List (Σ _ : κ, β)}
    (h : (scanEntries f ps).2 = none) : ∀ p ∈ ps, (f p.1 p.2).2 = none := by
  induction ps with
  | nil => exact fun p hp => by cases hp
  | cons q ps ih =>
      rcases hf : f q.1 q.2 with ⟨v, _ | e⟩
      · simp only [scanEntries, hf] at h
        intro p hp
        rcases List.mem_cons.mp hp with rfl | hp
        · rw [hf]
        · exact ih h p hp
      · simp [scanEntries, hf] at h

/-- A scan that met no error met none at any entry. -/
theorem scan_none {f : κ → β → β × Option ε} {m : Store κ β} {k : κ} {v : β}
    (h : (m.scan f).2 = none) (hk : m.lookup k = some v) : (f k v).2 = none :=
  scanEntries_none h ⟨k, v⟩ (AList.mem_lookup_iff.mp hk)

/-- A scan that met an error met it at an entry. -/
theorem scan_error {f : κ → β → β × Option ε} {m : Store κ β} {e : ε}
    (h : (m.scan f).2 = some e) : ∃ k v, m.lookup k = some v ∧ (f k v).2 = some e := by
  obtain ⟨p, hp, he⟩ := scanEntries_error h
  exact ⟨p.1, p.2, AList.mem_lookup_iff.mpr hp, he⟩

/-- A scan that met no error changed every value. -/
theorem scan_ok {f : κ → β → β × Option ε} {m : Store κ β} (h : (m.scan f).2 = none) :
    (m.scan f).1 = m.mapVals fun k v => (f k v).1 := by
  rw [scan_eq, scanned_of_ok h]
  refine AList.ext (List.map_congr_left fun p hp => ?_)
  have hk : p.1 ∈ m.entries.keys := List.mem_map_of_mem hp
  simp only [hk, if_true]

theorem lookup_scan {f : κ → β → β × Option ε} {m : Store κ β} {k : κ} {v' : β}
    (h : (m.scan f).1.lookup k = some v') :
    ∃ v, m.lookup k = some v ∧ (v' = (f k v).1 ∨ v' = v) := by
  rw [scan_eq, lookup_mapVals, Option.map_eq_some_iff] at h
  obtain ⟨v, hv, rfl⟩ := h
  refine ⟨v, hv, ?_⟩
  split
  · exact .inl rfl
  · exact .inr rfl

theorem total_scan {w : κ → β → Nat} {f : κ → β → β × Option ε} {m : Store κ β}
    (h : ∀ k v, m.lookup k = some v → w k (f k v).1 = w k v) :
    total w (m.scan f).1 = m.total w := by
  rw [scan_eq]
  refine total_mapVals_same fun k v hk => ?_
  split
  · exact h k v hk
  · rfl

end Store
