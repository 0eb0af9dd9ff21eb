import Mpeg2TsReader.Basic
import Mathlib.Logic.Function.Basic

/-!
# The filter table and the changeset protocol

`Filters` is the PID-indexed table of handlers of `Demultiplex`: a vector of optional handlers
that grows on insertion and never shrinks. A handler cannot edit the table it is dispatched
from, so it records `FilterChange`s in a `FilterChangeset`, which the demultiplexer applies
between dispatches.

The table is related to a map `UInt16 → Option F` through `Filters.get`, and each operation
is shown to act on that map as an update:

* `insert_eq_ok`: the store of `insert` is in range once the vector has grown, so `insert`
  never panics; it returns `put`, and with it `FilterChange::apply` and `FilterChangeset::apply`
  return `edit` and `drain`;
* `get_put`, `get_remove`: `insert` and `remove` update the map at one PID, whatever the
  vector's length;
* `contains_eq_isSome_get`, `mem_pids_iff`, `pids_pairwise_lt`: `contains` and `pids` read the
  same map;
* `filters_refine_map`: any sequence of operations from `Filters::new` returns normally and
  builds the table of the functional map built by the same updates;
* `changeset_apply_last_writer_wins`: applying a changeset returns normally and drains it, and
  each PID ends with the handler of the last edit that mentions it.
-/

namespace Mpeg2TsReader

variable {F : Type}

private theorem UInt16.eq_iff_toNat_eq (a b : UInt16) : a = b ↔ a.toNat = b.toNat :=
  ⟨congrArg _, UInt16.toNat.inj⟩

private theorem UInt16.toNat_toUInt16 {i : Nat} (h : i < 65536) : i.toUInt16.toNat = i :=
  UInt16.toNat_ofNat_of_lt h

private theorem UInt16.ne_of_lt' {a b : UInt16} (h : a < b) : a ≠ b :=
  fun e => by subst e; exact Nat.lt_irrefl _ h

/-- `Filters<F>`: the handler of each PID, in a vector indexed by PID. -/
structure Filters (F : Type) where
  /-- `filters_by_pid`: slot `pid` holds the handler installed for `pid`, if any. -/
  filtersByPid : List (Option F)

namespace Filters

/-- `Filters::new`. -/
def new : Filters F := ⟨[]⟩

/-- `Filters::contains`. -/
def contains (self : Filters F) (pid : UInt16) : Bool :=
  if h : pid.toNat < self.filtersByPid.length then self.filtersByPid[pid.toNat].isSome
  else false

/-- `Filters::get`. -/
def get (self : Filters F) (pid : UInt16) : Option F :=
  if h : self.filtersByPid.length ≤ pid.toNat then none else self.filtersByPid[pid.toNat]

/-- The loop `for _ in 0..n { self.filters_by_pid.push(None) }` of `Filters::insert`. -/
def pushNones (v : List (Option F)) : Nat → List (Option F)
  | 0 => v
  | n + 1 => pushNones (v ++ [none]) n

/-- The growth of `Filters::insert`: when `pid` is at or past the end of the vector, push
`diff + 1` empty slots. -/
def grow (v : List (Option F)) (pid : UInt16) : List (Option F) :=
  let diff : Int := pid.toNat - v.length
  if diff ≥ 0 then pushNones v (diff + 1).toNat else v

/-- `Filters::insert`: the growth, then the store `filters_by_pid[pid as usize] = Some(filter)`,
which panics past the end of the vector. -/
def insert (self : Filters F) (pid : UInt16) (filter : F) : Except Panic (Filters F) := do
  .ok ⟨← store (grow self.filtersByPid pid) pid.toNat (some filter)⟩

/-- The table `insert` returns (`insert_eq_ok`): the grown vector with the handler in slot
`pid`. -/
def put (self : Filters F) (pid : UInt16) (filter : F) : Filters F :=
  ⟨(grow self.filtersByPid pid).set pid.toNat (some filter)⟩

/-- `Filters::remove`. -/
def remove (self : Filters F) (pid : UInt16) : Filters F :=
  if pid.toNat < self.filtersByPid.length then ⟨self.filtersByPid.set pid.toNat none⟩ else self

/-- `Filters::pids`: the indices of the occupied slots, each cast `as u16`. -/
def pids (self : Filters F) : List UInt16 :=
  self.filtersByPid.enum.filterMap fun (i, e) => if e.isSome then some i.toUInt16 else none

theorem pushNones_eq (v : List (Option F)) (n : Nat) :
    pushNones v n = v ++ List.replicate n none := by
  induction n generalizing v with
  | zero => simp [pushNones]
  | succ n ih => simp [pushNones, ih, List.replicate_succ]

/-- The vector after the growth: padded with empty slots up to `pid`. -/
theorem grow_eq (v : List (Option F)) (pid : UInt16) :
    grow v pid = v ++ List.replicate (pid.toNat + 1 - v.length) none := by
  simp only [grow, pushNones_eq]
  split
  · rw [show (↑pid.toNat - ↑v.length + 1 : Int).toNat = pid.toNat + 1 - v.length by omega]
  · rw [Nat.sub_eq_zero_of_le (by omega), List.replicate_zero, List.append_nil]

/-- After the growth, slot `pid` exists. -/
theorem pid_lt_length_grow (v : List (Option F)) (pid : UInt16) :
    pid.toNat < (grow v pid).length := by
  rw [grow_eq, List.length_append, List.length_replicate]
  omega

/-- The store of `insert` is in range, so `insert` never panics. -/
theorem insert_eq_ok (self : Filters F) (pid : UInt16) (filter : F) :
    self.insert pid filter = .ok (self.put pid filter) := by
  rw [insert, store_of_lt _ (pid_lt_length_grow _ _)]
  rfl

theorem length_put (self : Filters F) (pid : UInt16) (filter : F) :
    (self.put pid filter).filtersByPid.length = max self.filtersByPid.length (pid.toNat + 1) := by
  simp only [put, grow_eq, List.length_set, List.length_append, List.length_replicate]
  omega

theorem length_remove (self : Filters F) (pid : UInt16) :
    (self.remove pid).filtersByPid.length = self.filtersByPid.length := by
  unfold remove; split <;> simp

/-- `get` reads slot `pid`, an empty or missing slot giving `none`. -/
theorem get_eq_join (self : Filters F) (pid : UInt16) :
    self.get pid = self.filtersByPid[pid.toNat]?.join := by
  unfold get
  split <;> rename_i h
  · simp [List.getElem?_eq_none h]
  · simp [List.getElem?_eq_getElem (Nat.lt_of_not_le h)]

@[simp]
theorem get_new (pid : UInt16) : (new : Filters F).get pid = none := by
  simp [get_eq_join, new]

/-- Padding with empty slots is invisible through `get`. -/
private theorem join_getElem?_append_nones (v : List (Option F)) (k i : Nat) :
    (v ++ List.replicate k none)[i]?.join = v[i]?.join := by
  by_cases h : i < v.length
  · rw [List.getElem?_append_left h]
  · rw [List.getElem?_append_right (Nat.le_of_not_lt h),
      List.getElem?_eq_none (Nat.le_of_not_lt h), List.getElem?_replicate]
    split <;> rfl

/-- `insert` updates the map at `pid`. -/
@[simp]
theorem get_put (self : Filters F) (pid p : UInt16) (filter : F) :
    (self.put pid filter).get p = if p = pid then some filter else self.get p := by
  rw [get_eq_join, get_eq_join, put, grow_eq, List.getElem?_set]
  by_cases hp : p = pid
  · subst hp
    rw [if_pos rfl, if_pos rfl, if_pos (by rw [List.length_append, List.length_replicate]; omega)]
    rfl
  · have : pid.toNat ≠ p.toNat := fun h => hp (UInt16.toNat.inj h.symm)
    simp only [this, hp, if_false, join_getElem?_append_nones]

/-- `remove` updates the map at `pid`. -/
@[simp]
theorem get_remove (self : Filters F) (pid p : UInt16) :
    (self.remove pid).get p = if p = pid then none else self.get p := by
  simp only [remove, get_eq_join, UInt16.eq_iff_toNat_eq p]
  split <;> split
  · simp_all
  · simp [List.getElem?_set, Ne.symm ‹_›]
  · simp_all [List.getElem?_eq_none (Nat.le_of_not_lt ‹_›)]
  · rfl

theorem contains_eq_isSome_get (self : Filters F) (pid : UInt16) :
    self.contains pid = (self.get pid).isSome := by
  unfold contains get
  split <;> split <;> first | rfl | omega

/-- A PID is listed by `pids` exactly when it has a handler, for a vector of at most `2 ^ 16`
slots, the most any sequence of `insert`s with `u16` PIDs can grow it to. -/
theorem mem_pids_iff (self : Filters F) (hlen : self.filtersByPid.length ≤ 65536)
    (p : UInt16) : p ∈ self.pids ↔ (self.get p).isSome := by
  have hp := p.toNat_lt_size
  simp only [UInt16.size] at hp
  simp only [pids, get_eq_join, List.mem_filterMap, Prod.exists, List.enum_eq_enumFrom,
    List.mk_mem_enumFrom_iff_le_and_getElem?_sub, Nat.sub_zero]
  constructor
  · rintro ⟨i, e, ⟨-, he⟩, hsome⟩
    split at hsome
    · cases hsome
      have hi : i < self.filtersByPid.length := (List.getElem?_eq_some_iff.1 he).1
      rw [UInt16.toNat_toUInt16 (show i < 65536 by omega), he]
      simp_all
    · cases hsome
  · intro h
    obtain ⟨e, he⟩ : ∃ e, self.filtersByPid[p.toNat]? = some e := by
      cases hx : self.filtersByPid[p.toNat]? with
      | none => rw [hx] at h; cases h
      | some e => exact ⟨e, rfl⟩
    refine ⟨p.toNat, e, ⟨Nat.zero_le _, he⟩, ?_⟩
    have : e.isSome := by simpa [he] using h
    simp [this, UInt16.eq_iff_toNat_eq, UInt16.toNat_toUInt16 hp]

/-- `pids` is strictly ascending, for a vector of at most `2 ^ 16` slots. -/
theorem pids_pairwise_lt (self : Filters F) (hlen : self.filtersByPid.length ≤ 65536) :
    self.pids.Pairwise (· < ·) := by
  have hfst : self.filtersByPid.enum.Pairwise (fun x y => x.1 < y.1 ∧ y.1 < 65536) := by
    have h : (self.filtersByPid.enum.map Prod.fst).Pairwise (· < ·) := by
      rw [List.enum_eq_enumFrom, List.enumFrom_map_fst]; exact List.pairwise_lt_range' _ _
    refine (List.pairwise_map.1 h).imp_of_mem fun _ hb hab => ⟨hab, ?_⟩
    have := List.fst_lt_add_of_mem_enumFrom hb
    omega
  refine hfst.filterMap _ ?_
  rintro ⟨i, e⟩ ⟨j, e'⟩ ⟨hij, hj⟩ a ha b hb
  simp only [Option.mem_def, Option.ite_none_right_eq_some, Option.some.injEq] at ha hb
  rw [← ha.2, ← hb.2]
  show i.toUInt16.toNat < j.toUInt16.toNat
  rw [UInt16.toNat_toUInt16 (by omega), UInt16.toNat_toUInt16 hj]
  exact hij

theorem length_le_of_le (self : Filters F) (pid : UInt16) (filter : F)
    (h : self.filtersByPid.length ≤ 65536) : (self.put pid filter).filtersByPid.length ≤ 65536 := by
  have := pid.toNat_lt_size
  simp only [UInt16.size] at this
  rw [length_put]; omega

end Filters

/-! ## Edits and changesets -/

/-- `FilterChange<F>`: one deferred edit of the filter table. -/
inductive FilterChange (F : Type) where
  /-- `FilterChange::Insert`. -/
  | insert (pid : UInt16) (filter : F)
  /-- `FilterChange::Remove`. -/
  | remove (pid : UInt16)
  deriving DecidableEq, Repr

namespace FilterChange

/-- The PID an edit mentions. -/
def pid : FilterChange F → UInt16
  | insert pid _ => pid
  | remove pid => pid

/-- The handler an edit leaves at its PID. -/
def target : FilterChange F → Option F
  | insert _ filter => some filter
  | remove _ => none

/-- `FilterChange::apply`. -/
def apply : FilterChange F → Filters F → Except Panic (Filters F)
  | insert pid filter, filters => filters.insert pid filter
  | remove pid, filters => .ok (filters.remove pid)

/-- The table `apply` returns (`apply_eq_ok`). -/
def edit : FilterChange F → Filters F → Filters F
  | insert pid filter, filters => filters.put pid filter
  | remove pid, filters => filters.remove pid

/-- What an edit does to the table seen as a map from PID to handler. -/
def update (m : UInt16 → Option F) (c : FilterChange F) : UInt16 → Option F :=
  Function.update m c.pid c.target

/-- An edit never panics. -/
theorem apply_eq_ok (c : FilterChange F) (t : Filters F) : c.apply t = .ok (c.edit t) := by
  cases c
  · exact Filters.insert_eq_ok _ _ _
  · rfl

/-- `apply` refines `update`: the table after an edit is the map after it. -/
theorem get_edit (c : FilterChange F) (t : Filters F) : (c.edit t).get = update t.get c := by
  funext p
  cases c <;> simp [edit, update, pid, target, Function.update_apply]

theorem length_edit_le (c : FilterChange F) (t : Filters F)
    (h : t.filtersByPid.length ≤ 65536) : (c.edit t).filtersByPid.length ≤ 65536 := by
  cases c
  · exact t.length_le_of_le _ _ h
  · simpa [edit, Filters.length_remove] using h

end FilterChange

/-- A sequence of edits never panics. -/
theorem foldlM_apply_eq_ok (ops : List (FilterChange F)) (t : Filters F) :
    ops.foldlM (fun t op => op.apply t) t = .ok (ops.foldl (fun t op => op.edit t) t) := by
  induction ops generalizing t with
  | nil => rfl
  | cons c ops ih => rw [List.foldlM_cons, FilterChange.apply_eq_ok, ok_bind, ih]; rfl

/-- Applying edits in order to a table gives the table of the map updated in the same order. -/
theorem get_foldl_edit (ops : List (FilterChange F)) (t : Filters F) :
    (ops.foldl (fun t op => op.edit t) t).get = ops.foldl FilterChange.update t.get := by
  induction ops generalizing t with
  | nil => rfl
  | cons c ops ih => simp only [List.foldl_cons, ih, FilterChange.get_edit]

theorem length_foldl_edit_le (ops : List (FilterChange F)) (t : Filters F)
    (h : t.filtersByPid.length ≤ 65536) :
    (ops.foldl (fun t op => op.edit t) t).filtersByPid.length ≤ 65536 := by
  induction ops generalizing t with
  | nil => exact h
  | cons c ops ih => exact ih _ (c.length_edit_le t h)

/-- `Filters` is a correct finite map: from `Filters::new`, any sequence of `insert`s and
`remove`s with arbitrary `u16` PIDs returns normally, answers `contains`, `get` and `pids` as
the functional map built by the same updates, and `pids` is strictly ascending. -/
theorem filters_refine_map (ops : List (FilterChange F)) (p : UInt16) :
    let m := ops.foldl FilterChange.update fun _ => none
    ∃ t, ops.foldlM (fun t op => op.apply t) Filters.new = .ok t ∧
      (t.contains p = true ↔ (m p).isSome) ∧ t.get p = m p ∧ (p ∈ t.pids ↔ (m p).isSome) ∧
      t.pids.Pairwise (· < ·) ∧ t.pids.Nodup := by
  intro m
  let t := ops.foldl (fun t op => op.edit t) Filters.new
  have hget : t.get = m := by
    simp only [t, m, get_foldl_edit]
    congr
    funext q
    exact Filters.get_new q
  have hlen : t.filtersByPid.length ≤ 65536 :=
    length_foldl_edit_le ops _ (by simp [Filters.new])
  have hsorted := t.pids_pairwise_lt hlen
  refine ⟨t, foldlM_apply_eq_ok ops _, ?_, congrFun hget p, ?_, hsorted,
    hsorted.imp UInt16.ne_of_lt'⟩
  · rw [Filters.contains_eq_isSome_get, hget]
  · rw [t.mem_pids_iff hlen, hget]

/-- `FilterChangeset<F>`: the edits recorded by handlers, in enqueue order. -/
structure FilterChangeset (F : Type) where
  /-- `updates`: the pending edits, oldest first. -/
  updates : List (FilterChange F)

namespace FilterChangeset

/-- `FilterChangeset::new`. -/
def new : FilterChangeset F := ⟨[]⟩

/-- `FilterChangeset::insert`: enqueue an `Insert`. -/
def insert (self : FilterChangeset F) (pid : UInt16) (filter : F) : FilterChangeset F :=
  ⟨self.updates ++ [.insert pid filter]⟩

/-- `FilterChangeset::remove`: enqueue a `Remove`. -/
def remove (self : FilterChangeset F) (pid : UInt16) : FilterChangeset F :=
  ⟨self.updates ++ [.remove pid]⟩

/-- `FilterChangeset::apply`: drain the edits into the table in enqueue order. -/
def apply (self : FilterChangeset F) (filters : Filters F) :
    Except Panic (FilterChangeset F × Filters F) := do
  let filters ← self.updates.foldlM (fun filters update => update.apply filters) filters
  .ok (⟨[]⟩, filters)

/-- The drained changeset and the table `apply` returns (`apply_eq_ok`). -/
def drain (self : FilterChangeset F) (filters : Filters F) : FilterChangeset F × Filters F :=
  (⟨[]⟩, self.updates.foldl (fun filters update => update.edit filters) filters)

/-- `FilterChangeset::is_empty`. -/
def isEmpty (self : FilterChangeset F) : Bool := self.updates.isEmpty

/-- Applying a changeset never panics. -/
theorem apply_eq_ok (self : FilterChangeset F) (filters : Filters F) :
    self.apply filters = .ok (self.drain filters) := by
  rw [apply, foldlM_apply_eq_ok]
  rfl

@[simp]
theorem isEmpty_drain (self : FilterChangeset F) (filters : Filters F) :
    (self.drain filters).1.isEmpty = true := rfl

/-- A changeset with no edits is drained by changing nothing. -/
theorem drain_of_updates_nil (cs : FilterChangeset F) (filters : Filters F)
    (h : cs.updates = []) : cs.drain filters = (cs, filters) := by
  obtain ⟨updates⟩ := cs
  subst h
  rfl

/-- The last of `updates` that mentions `p`. -/
def lastEdit (updates : List (FilterChange F)) (p : UInt16) : Option (FilterChange F) :=
  (updates.filter (·.pid == p)).getLast?

theorem lastEdit_cons (c : FilterChange F) (updates : List (FilterChange F)) (p : UInt16) :
    lastEdit (c :: updates) p = (lastEdit updates p).or (if c.pid = p then some c else none) := by
  unfold lastEdit
  by_cases hc : c.pid = p
  · simp only [List.filter_cons, hc, beq_self_eq_true, if_true, List.getLast?_cons]
    cases (updates.filter (·.pid == p)).getLast? <;> rfl
  · simp [List.filter_cons, hc]

/-- The map after a run of updates: at each PID, the target of the last update mentioning
it, if there is one. -/
theorem foldl_update_apply (updates : List (FilterChange F)) (m : UInt16 → Option F)
    (p : UInt16) :
    updates.foldl FilterChange.update m p = ((lastEdit updates p).map (·.target)).getD (m p) := by
  induction updates generalizing m with
  | nil => rfl
  | cons c updates ih =>
    rw [List.foldl_cons, ih, lastEdit_cons]
    cases lastEdit updates p with
    | some c' => rfl
    | none =>
      by_cases hc : c.pid = p
      · subst hc; simp [FilterChange.update]
      · simp [hc, FilterChange.update, Function.update_apply, Ne.symm hc]

/-- Last writer wins: applying a changeset returns normally and drains it, each PID it mentions
ends with the handler of its last edit, and every other slot keeps its handler. -/
theorem changeset_apply_last_writer_wins (cs : FilterChangeset F) (t : Filters F)
    (p : UInt16) :
    ∃ r, cs.apply t = .ok r ∧ r.1.isEmpty = true ∧
      (∀ f, lastEdit cs.updates p = some (.insert p f) → r.2.get p = some f) ∧
      (lastEdit cs.updates p = some (.remove p) → r.2.get p = none) ∧
      (lastEdit cs.updates p = none → r.2.get p = t.get p) := by
  have h : (cs.drain t).2.get p = ((lastEdit cs.updates p).map (·.target)).getD (t.get p) := by
    rw [← foldl_update_apply, ← get_foldl_edit]; rfl
  refine ⟨_, apply_eq_ok cs t, rfl, fun f hf => ?_, fun hr => ?_, fun hn => ?_⟩ <;>
    simp_all [FilterChange.target]

end FilterChangeset

end Mpeg2TsReader
