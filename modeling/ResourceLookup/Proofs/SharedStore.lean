import ResourceLookup.Failure.StoreTask
import ResourceLookup.Proofs.MemorySlots

/-!
# Live slots among many tasks

Whatever the order in which tasks take their steps on the store inside the process, no live slot is
lost (`SharedStore.run_keeps_live`). It goes by a task that deletes under its key, or for the slot
of a task that puts under its key, and never by one that reads or purges. A task that reads answers
with an entry exactly if, when it looked, the slot under its key had not ended at the time that it
had read from the clock before; that slot is the one that was put there last.

A task may hold a time of the clock that is long over, and take away slots by it. What carries the
argument is that it can hold no time that is yet to come (`SharedStore.Reflects`), so that a slot
which had ended at the time it holds has ended now. This is why a slot that was put while a reading
task was about to drop an ended one survives: the task tests the slot that it drops, by the time it
holds.
-/

set_option autoImplicit false
set_option relaxedAutoImplicit false

namespace ResourceLookup

/-- A write to the store: a key, and the slot that is put there, or none if the slot is removed. -/
abbrev StoreWrite := String × Option Slot

/-- The slot that the last write under a key put there. -/
def StoreWrite.lastSlot? (key : String) (writes : List StoreWrite) : Option Slot :=
  (writes.filter fun (written, _) ↦ written == key).getLast?.bind (·.2)

theorem StoreWrite.lastSlot?_concat (key : String) (writes : List StoreWrite)
    (write : StoreWrite) :
    lastSlot? key (writes ++ [write]) =
      if write.1 = key then write.2 else lastSlot? key writes := by
  rw [lastSlot?, List.filter_append]
  by_cases hkey : write.1 = key
  · simp [hkey]
  · simp [hkey, lastSlot?]

/-! ### Steps of a task -/

namespace StoreTask

variable {task : StoreTask} {request : StoreRequest} {now : Nat} {store : MemoryStore}
  {key : String}

/-- What a task writes in its next step. -/
def write? : StoreTask → Option StoreWrite
  | .requested (.delete key) => some (key, none)
  | .inserting key slot => some (key, some slot)
  | _ => none

/-- The time by which a task tells which slots have ended, once it has read it. -/
def reading? : StoreTask → Option Nat
  | .looking read _ | .dropping read _ | .counting read | .sweeping read _ => some read
  | _ => none

/-- What a task that reads will answer, once that is settled. -/
def answer? : StoreTask → Option (Option FailureEntry)
  | .answered found => some found
  | .dropping _ _ => some none
  | _ => none

/-- Whether a task may have come so far with a request. -/
def Serves (request : StoreRequest) : StoreTask → Prop
  | .requested asked => request = asked
  | .looking _ key | .dropping _ key => request = .get key
  | .answered _ => ∃ key, request = .get key
  | .inserting key slot => ∃ ttl, request = .put key slot.entry ttl
  | .counting _ | .sweeping _ _ | .recounting _ | .purged _ => request = .purge
  | .finished => (∃ key entry ttl, request = .put key entry ttl) ∨ ∃ key, request = .delete key

/-- A step stays within the request. -/
theorem serves_step (now : Nat) (store : MemoryStore) (task : StoreTask)
    (hserves : task.Serves request) : (task.step now store).1.Serves request := by
  cases task with
  | requested asked =>
    cases asked with
    | get key => exact hserves
    | put key entry ttl => exact ⟨ttl, hserves⟩
    | delete key => exact .inr ⟨key, hserves⟩
    | purge => exact hserves
  | looking read key =>
    rw [step]
    cases store.look read key with
    | live entry => exact ⟨key, hserves⟩
    | expired => exact hserves
    | absent => exact ⟨key, hserves⟩
  | dropping read key => exact ⟨key, hserves⟩
  | inserting key slot =>
    obtain ⟨ttl, hrequest⟩ := hserves
    exact .inl ⟨key, slot.entry, ttl, hrequest⟩
  | _ => exact hserves

/-- Only a request to delete or to put writes, and under its key. -/
theorem request_of_write {written : Option Slot} (hserves : task.Serves request)
    (hwrite : task.write? = some (key, written)) :
    request = .delete key ∧ written = none ∨
      ∃ slot ttl, request = .put key slot.entry ttl ∧ written = some slot := by
  cases task with
  | requested asked =>
    cases asked with
    | delete other =>
      cases hwrite
      exact .inl ⟨hserves, rfl⟩
    | _ => exact nomatch hwrite
  | inserting other slot =>
    cases hwrite
    obtain ⟨ttl, hrequest⟩ := hserves
    exact .inr ⟨slot, ttl, hrequest, rfl⟩
  | _ => exact nomatch hwrite

/-- A step that writes changes what is under its key and nothing else. -/
theorem mem_step_of_write {written : Option Slot} (hwrite : task.write? = some (key, written))
    (other : String) (slot : Slot) :
    (other, slot) ∈ (task.step now store).2.slots ↔
      (other, slot) ∈ store.slots ∧ other ≠ key ∨ other = key ∧ written = some slot := by
  cases task with
  | requested asked =>
    cases asked with
    | delete deleted =>
      cases hwrite
      exact MemoryStore.mem_removeSlot.trans (by simp)
    | _ => exact nomatch hwrite
  | inserting inserted next =>
    cases hwrite
    exact MemoryStore.mem_insertSlot.trans (by simp [eq_comm])
  | _ => exact nomatch hwrite

/-- A step that does not write takes away ended slots at most. Assumes: the task has read no time
that is yet to come. -/
theorem sweeps_step (hwrite : task.write? = none)
    (hread : ∀ read, task.reading? = some read → read ≤ now) :
    store.Sweeps now (task.step now store).2 := by
  cases task with
  | requested asked =>
    cases asked with
    | delete key => exact nomatch hwrite
    | _ => exact .refl now store
  | dropping read key =>
    exact (MemoryStore.sweeps_removeIfExpired read key store).mono (hread read rfl)
  | inserting key slot => exact nomatch hwrite
  | sweeping read before =>
    exact (MemoryStore.sweeps_retainLive read store).mono (hread read rfl)
  | _ => exact .refl now store

/-- A time that a task has read after a step was read in the step or before. -/
theorem reading?_step {read : Nat} (hread : (task.step now store).1.reading? = some read) :
    read = now ∨ task.reading? = some read := by
  cases task with
  | requested asked =>
    cases asked with
    | get key => exact .inl (Option.some.inj hread).symm
    | purge => exact .inl (Option.some.inj hread).symm
    | _ => cases hread
  | looking held key =>
    rw [step] at hread
    cases hfound : store.look held key with
    | expired =>
      rw [hfound] at hread
      exact .inr hread
    | _ =>
      rw [hfound] at hread
      cases hread
  | counting held => exact .inr hread
  | _ => cases hread

/-- A settled answer is given in the end. -/
theorem answer?_step {found : Option FailureEntry} (now : Nat) (store : MemoryStore)
    (task : StoreTask) (hanswer : task.answer? = some found) :
    (task.step now store).1.answer? = some found := by
  cases task with
  | answered given => exact hanswer
  | dropping read key => exact hanswer
  | _ => exact nomatch hanswer

/-- Only a task that found an entry answers with one. -/
theorem answer?_eq_entry_iff {entry : FailureEntry} :
    task.answer? = some (some entry) ↔ task = .answered (some entry) := by
  cases task <;> simp [answer?]

/-- The answer is settled by what is found under the key. -/
theorem answer?_afterLook (read : Nat) (key : String) (found : MemoryStore.Found) :
    ∃ answer, (afterLook read key found).answer? = some answer ∧
      ∀ entry, answer = some entry ↔ found = .live entry := by
  cases found with
  | live entry => exact ⟨some entry, rfl, fun other ↦ by simp⟩
  | expired => exact ⟨none, rfl, fun other ↦ by simp⟩
  | absent => exact ⟨none, rfl, fun other ↦ by simp⟩

end StoreTask

namespace SharedStore

variable {shared : SharedStore} {index : Nat} {task : StoreTask} {turn : Turn}
  {schedule : List Turn} {key : String} {slot : Slot}

/-- What a turn writes. -/
def write? (shared : SharedStore) : Turn → Option StoreWrite
  | .wait _ => none
  | .run index => shared.tasks[index]?.bind StoreTask.write?

/-- All writes of a schedule, in turn. -/
def writes (shared : SharedStore) : List Turn → List StoreWrite
  | [] => []
  | turn :: rest => (shared.write? turn).toList ++ (shared.take turn).writes rest

theorem take_of_none (htask : shared.tasks[index]? = none) :
    shared.take (.run index) = shared := by
  simp only [take, htask]

theorem take_of_task (htask : shared.tasks[index]? = some task) :
    shared.take (.run index) =
      ⟨shared.now, (task.step shared.now shared.store).2,
        shared.tasks.set index (task.step shared.now shared.store).1⟩ := by
  simp only [take, htask]

theorem run_append (shared : SharedStore) (first second : List Turn) :
    shared.run (first ++ second) = (shared.run first).run second :=
  List.foldl_append

theorem run_cons (shared : SharedStore) (turn : Turn) (rest : List Turn) :
    shared.run (turn :: rest) = (shared.take turn).run rest := rfl

/-! ### A task among others -/

theorem tasks_take_of_ne (hturn : turn ≠ .run index) :
    (shared.take turn).tasks[index]? = shared.tasks[index]? := by
  cases turn with
  | wait elapsed => rfl
  | run other =>
    have hother : other ≠ index := fun hsame ↦ hturn (congrArg Turn.run hsame)
    cases htask : shared.tasks[other]? with
    | none => rw [take_of_none htask]
    | some task =>
      rw [take_of_task htask]
      exact List.getElem?_set_ne hother

theorem tasks_take_self (htask : shared.tasks[index]? = some task) :
    (shared.take (.run index)).tasks[index]? =
      some (task.step shared.now shared.store).1 := by
  obtain ⟨hlength, -⟩ := List.getElem?_eq_some_iff.mp htask
  rw [take_of_task htask]
  exact List.getElem?_set_self hlength

/-- A task comes no further while it has no turn. -/
theorem tasks_run_of_not_mem (hschedule : .run index ∉ schedule) :
    (shared.run schedule).tasks[index]? = shared.tasks[index]? := by
  induction schedule generalizing shared with
  | nil => rfl
  | cons turn rest ih =>
    rw [List.mem_cons, not_or] at hschedule
    rw [run_cons, ih hschedule.2, tasks_take_of_ne (Ne.symm hschedule.1)]

/-- What no step of a task can end holds of it on any schedule. -/
theorem tasks_run_of_stable (holds : StoreTask → Prop)
    (hstable : ∀ now store task, holds task → holds (StoreTask.step now store task).1)
    (schedule : List Turn) (htask : ∃ task, shared.tasks[index]? = some task ∧ holds task) :
    ∃ task, (shared.run schedule).tasks[index]? = some task ∧ holds task := by
  induction schedule generalizing shared with
  | nil => exact htask
  | cons turn rest ih =>
    obtain ⟨task, htask, hholds⟩ := htask
    rw [run_cons]
    refine ih ?_
    by_cases hturn : turn = .run index
    · subst hturn
      exact ⟨_, tasks_take_self htask, hstable _ _ _ hholds⟩
    · exact ⟨task, (tasks_take_of_ne hturn).trans htask, hholds⟩

theorem tasks_run_of_none (htask : shared.tasks[index]? = none) (schedule : List Turn) :
    (shared.run schedule).tasks[index]? = none := by
  induction schedule generalizing shared with
  | nil => exact htask
  | cons turn rest ih =>
    rw [run_cons]
    refine ih ?_
    by_cases hturn : turn = .run index
    · rw [hturn, take_of_none htask]
      exact htask
    · rw [tasks_take_of_ne hturn]
      exact htask

theorem tasks_start (now : Nat) (requests : List StoreRequest) (index : Nat) :
    (start now requests).tasks[index]? = requests[index]?.map .requested :=
  List.getElem?_map

/-- A task has not begun at the start. -/
theorem tasks_start_of_request (now : Nat) {requests : List StoreRequest} {request : StoreRequest}
    (hrequest : requests[index]? = some request) :
    (start now requests).tasks[index]? = some (.requested request) := by
  rw [tasks_start, hrequest]
  rfl

/-- A task stays within its request. -/
theorem serves_of_run (now : Nat) {requests : List StoreRequest} (schedule : List Turn)
    (htask : ((start now requests).run schedule).tasks[index]? = some task) :
    ∃ request, requests[index]? = some request ∧ task.Serves request := by
  cases hrequest : requests[index]? with
  | none =>
    have hstart : (start now requests).tasks[index]? = none := by
      rw [tasks_start, hrequest]
      rfl
    exact nomatch (tasks_run_of_none hstart schedule).symm.trans htask
  | some request =>
    obtain ⟨other, hother, hserves⟩ := tasks_run_of_stable (StoreTask.Serves request)
      StoreTask.serves_step schedule ⟨_, tasks_start_of_request now hrequest, rfl⟩
    obtain rfl := Option.some.inj (hother.symm.trans htask)
    exact ⟨request, rfl, hserves⟩

/-! ### The store -/

/-- The store has nothing but the slots that were put there last, all of them that are live, and no
task has read a time that is yet to come. -/
structure Reflects (shared : SharedStore) (writes : List StoreWrite) : Prop where
  readings : ∀ task ∈ shared.tasks, ∀ read, task.reading? = some read → read ≤ shared.now
  sound : ∀ key slot, (key, slot) ∈ shared.store.slots →
    StoreWrite.lastSlot? key writes = some slot
  complete : ∀ key slot, StoreWrite.lastSlot? key writes = some slot →
    slot.isLiveAt shared.now = true → (key, slot) ∈ shared.store.slots

namespace Reflects

variable {writes : List StoreWrite}

theorem start (now : Nat) (requests : List StoreRequest) : (start now requests).Reflects [] where
  readings task htask read hread := by
    obtain ⟨request, -, rfl⟩ := List.mem_map.mp htask
    cases request <;> exact nomatch hread
  sound _ _ hmem := absurd hmem MemoryStore.not_mem_empty
  complete _ _ hslot := nomatch hslot

/-- The slot under a key is the only one there. -/
theorem slotAt?_eq_some_iff (hreflects : shared.Reflects writes) :
    shared.store.slotAt? key = some slot ↔ (key, slot) ∈ shared.store.slots := by
  refine ⟨MemoryStore.mem_of_slotAt?, fun hmem ↦ ?_⟩
  obtain ⟨found, hfound⟩ := MemoryStore.slotAt?_of_mem hmem
  have hsame := hreflects.sound key found (MemoryStore.mem_of_slotAt? hfound)
  obtain rfl : found = slot := Option.some.inj (hsame.symm.trans (hreflects.sound key slot hmem))
  exact hfound

/-- A task that takes a step has read no time that is yet to come. -/
theorem readings_take (hreflects : shared.Reflects writes)
    (htask : shared.tasks[index]? = some task) :
    ∀ other ∈ (shared.take (.run index)).tasks, ∀ read, other.reading? = some read →
      read ≤ (shared.take (.run index)).now := by
  rw [take_of_task htask]
  intro other hother read hread
  rcases List.mem_or_eq_of_mem_set hother with hold | rfl
  · exact hreflects.readings other hold read hread
  · rcases StoreTask.reading?_step hread with rfl | hheld
    · exact Nat.le_refl shared.now
    · exact hreflects.readings task (List.mem_of_getElem? htask) read hheld

/-- The step of a task that does not write takes away ended slots at most. -/
theorem sweeps_take (hreflects : shared.Reflects writes)
    (htask : shared.tasks[index]? = some task) (hwrite : task.write? = none) :
    shared.store.Sweeps shared.now (shared.take (.run index)).store := by
  rw [take_of_task htask]
  exact StoreTask.sweeps_step hwrite (hreflects.readings task (List.mem_of_getElem? htask))

/-- Letting time pass changes nothing in the store, and no slot becomes live by it. -/
theorem wait (hreflects : shared.Reflects writes) (elapsed : Nat) :
    (shared.take (.wait elapsed)).Reflects writes where
  readings task htask read hread :=
    Nat.le_add_right_of_le (hreflects.readings task htask read hread)
  sound := hreflects.sound
  complete key slot hslot hlive :=
    hreflects.complete key slot hslot (Slot.isLiveAt_of_le (Nat.le_add_right _ _) hlive)

/-- The step of a task keeps the relation. -/
theorem step (hreflects : shared.Reflects writes) (htask : shared.tasks[index]? = some task) :
    (shared.take (.run index)).Reflects (writes ++ task.write?.toList) := by
  have hnow : (shared.take (.run index)).now = shared.now := by rw [take_of_task htask]
  -- A task that does not write may drop slots by a time that is long over, but no live one.
  cases hwrite : task.write? with
  | none =>
    have hsweeps := hreflects.sweeps_take htask hwrite
    rw [Option.toList_none, List.append_nil]
    refine ⟨hreflects.readings_take htask, fun key slot hmem ↦ ?_, fun key slot hslot hlive ↦ ?_⟩
    · exact hreflects.sound key slot (hsweeps.taken _ hmem)
    · rw [hnow] at hlive
      exact hsweeps.kept _ (hreflects.complete key slot hslot hlive) hlive
  | some write =>
    obtain ⟨written, put⟩ := write
    have hafter (other : String) (slot : Slot) :
        (other, slot) ∈ (task.step shared.now shared.store).2.slots ↔
          (other, slot) ∈ shared.store.slots ∧ other ≠ written ∨
            other = written ∧ put = some slot :=
      StoreTask.mem_step_of_write hwrite other slot
    rw [Option.toList_some]
    refine ⟨hreflects.readings_take htask, fun key slot hmem ↦ ?_, fun key slot hslot hlive ↦ ?_⟩
    · rw [take_of_task htask, hafter] at hmem
      rw [StoreWrite.lastSlot?_concat]
      rcases hmem with ⟨hold, hkey⟩ | ⟨rfl, hput⟩
      · rw [if_neg (Ne.symm hkey)]
        exact hreflects.sound key slot hold
      · rw [if_pos rfl]
        exact hput
    · rw [hnow] at hlive
      rw [StoreWrite.lastSlot?_concat] at hslot
      rw [take_of_task htask, hafter]
      by_cases hkey : written = key
      · rw [if_pos hkey] at hslot
        exact .inr ⟨hkey.symm, hslot⟩
      · rw [if_neg hkey] at hslot
        exact .inl ⟨hreflects.complete key slot hslot hlive, Ne.symm hkey⟩

/-- No turn breaks the relation. -/
theorem take (hreflects : shared.Reflects writes) (turn : Turn) :
    (shared.take turn).Reflects (writes ++ (shared.write? turn).toList) := by
  cases turn with
  | wait elapsed =>
    rw [write?, Option.toList_none, List.append_nil]
    exact hreflects.wait elapsed
  | run index =>
    rw [write?]
    cases htask : shared.tasks[index]? with
    | none =>
      rw [take_of_none htask, Option.bind_none, Option.toList_none, List.append_nil]
      exact hreflects
    | some task => exact hreflects.step htask

/-- No schedule breaks the relation. -/
theorem run (hreflects : shared.Reflects writes) (schedule : List Turn) :
    (shared.run schedule).Reflects (writes ++ shared.writes schedule) := by
  induction schedule generalizing shared writes with
  | nil =>
    rw [SharedStore.writes, List.append_nil]
    exact hreflects
  | cons turn rest ih =>
    rw [SharedStore.writes, ← List.append_assoc, run_cons]
    exact ih (hreflects.take turn)

theorem run_start (now : Nat) (requests : List StoreRequest) (schedule : List Turn) :
    ((SharedStore.start now requests).run schedule).Reflects
      ((SharedStore.start now requests).writes schedule) :=
  (Reflects.start now requests).run schedule

/-- A live slot stays in the store in a turn, unless a task writes under its key. -/
theorem mem_take_or_write (hreflects : shared.Reflects writes)
    (hmem : (key, slot) ∈ shared.store.slots) (hlive : slot.isLiveAt shared.now = true)
    (turn : Turn) :
    (key, slot) ∈ (shared.take turn).store.slots ∨
      ∃ index task written, turn = .run index ∧ shared.tasks[index]? = some task ∧
        task.write? = some (key, written) := by
  cases turn with
  | wait elapsed => exact .inl hmem
  | run index =>
    cases htask : shared.tasks[index]? with
    | none =>
      rw [take_of_none htask]
      exact .inl hmem
    | some task =>
      cases hwrite : task.write? with
      | none => exact .inl ((hreflects.sweeps_take htask hwrite).kept _ hmem hlive)
      | some write =>
        obtain ⟨written, put⟩ := write
        by_cases hkey : key = written
        · subst hkey
          exact .inr ⟨index, task, put, rfl, htask, hwrite⟩
        · rw [take_of_task htask]
          exact .inl ((StoreTask.mem_step_of_write hwrite key slot).mpr (.inl ⟨hmem, hkey⟩))

end Reflects

/-- What is under a key after a task wrote there. -/
theorem slotAt?_take_of_write {written : Option Slot}
    (htask : shared.tasks[index]? = some task) (hwrite : task.write? = some (key, written)) :
    (shared.take (.run index)).store.slotAt? key = written := by
  have hafter : ∀ slot, (key, slot) ∈ (shared.take (.run index)).store.slots ↔
      written = some slot := by
    intro slot
    rw [take_of_task htask, StoreTask.mem_step_of_write hwrite]
    simp
  cases hfound : (shared.take (.run index)).store.slotAt? key with
  | some found => exact ((hafter found).mp (MemoryStore.mem_of_slotAt? hfound)).symm
  | none =>
    cases written with
    | none => rfl
    | some slot =>
      obtain ⟨found, hsome⟩ := MemoryStore.slotAt?_of_mem ((hafter slot).mpr rfl)
      exact nomatch hfound.symm.trans hsome

/-! ### Answers -/

section Answer

variable {before between : List Turn} {entry : FailureEntry}

/-- A task that is about to look answers with an entry exactly if it finds a live one. -/
theorem answered_iff_of_looking {read : Nat} (after : List Turn)
    (htask : shared.tasks[index]? = some (.looking read key)) :
    (shared.run (.run index :: after)).tasks[index]? = some (.answered (some entry)) ↔
      shared.store.look read key = .live entry := by
  obtain ⟨answer, hanswer, hlive⟩ :=
    StoreTask.answer?_afterLook read key (shared.store.look read key)
  obtain ⟨task, hreached, hsettled⟩ := tasks_run_of_stable (·.answer? = some answer)
    StoreTask.answer?_step after ⟨_, tasks_take_self htask, hanswer⟩
  rw [run_cons, hreached, Option.some.injEq, ← StoreTask.answer?_eq_entry_iff, hsettled,
    Option.some.injEq]
  exact hlive entry

/-- A task that reads takes its time from the clock in its first turn, and looks in its second. -/
theorem tasks_run_first (hbefore : .run index ∉ before) (hbetween : .run index ∉ between)
    (htask : shared.tasks[index]? = some (.requested (.get key))) :
    (shared.run (before ++ .run index :: between)).tasks[index]? =
      some (.looking (shared.run before).now key) := by
  rw [run_append, run_cons, tasks_run_of_not_mem hbetween]
  exact tasks_take_self ((tasks_run_of_not_mem hbefore).trans htask)

/-- A task that answers with an entry has had two turns at least. -/
theorem exists_turns_of_answered (htask : shared.tasks[index]? = some (.requested (.get key)))
    (hanswered : (shared.run schedule).tasks[index]? = some (.answered (some entry))) :
    ∃ before between after, schedule = before ++ .run index :: (between ++ .run index :: after) ∧
      .run index ∉ before ∧ .run index ∉ between := by
  by_cases hfirst : .run index ∈ schedule
  · obtain ⟨before, rest, rfl, hbefore⟩ := List.eq_append_cons_of_mem hfirst
    by_cases hsecond : .run index ∈ rest
    · obtain ⟨between, after, rfl, hbetween⟩ := List.eq_append_cons_of_mem hsecond
      exact ⟨before, between, after, rfl, hbefore, hbetween⟩
    · rw [tasks_run_first hbefore hsecond htask] at hanswered
      exact nomatch hanswered
  · rw [tasks_run_of_not_mem hfirst, htask] at hanswered
    exact nomatch hanswered

/-- A task that has had its two turns has answered with an entry exactly if the slot that it found
had not ended at the time that it had read. -/
theorem answered_iff_live (now : Nat) {requests : List StoreRequest} (after : List Turn)
    (hrequest : requests[index]? = some (.get key)) (hbefore : .run index ∉ before)
    (hbetween : .run index ∉ between) :
    let start := SharedStore.start now requests
    let looked := before ++ .run index :: between
    (start.run (before ++ .run index :: (between ++ .run index :: after))).tasks[index]? =
        some (.answered (some entry)) ↔
      ∃ slot, (start.run looked).store.slotAt? key = some slot ∧
        StoreWrite.lastSlot? key (start.writes looked) = some slot ∧
        slot.isLiveAt (start.run before).now = true ∧ slot.entry = entry := by
  intro start looked
  have hsound : ∀ slot, (start.run looked).store.slotAt? key = some slot →
      StoreWrite.lastSlot? key (start.writes looked) = some slot := fun slot hslot ↦
    (Reflects.run_start now requests looked).sound key slot (MemoryStore.mem_of_slotAt? hslot)
  have hturns : before ++ .run index :: (between ++ .run index :: after) =
      looked ++ .run index :: after := by
    rw [← List.cons_append, ← List.append_assoc]
  have hlooking := tasks_run_first hbefore hbetween (tasks_start_of_request now hrequest)
  rw [hturns, run_append, answered_iff_of_looking after hlooking, MemoryStore.look_eq_live_iff]
  refine exists_congr fun slot ↦ ⟨fun ⟨hslot, hlive⟩ ↦ ?_, fun ⟨hslot, _, hlive⟩ ↦ ⟨hslot, hlive⟩⟩
  exact ⟨hslot, hsound slot hslot, hlive⟩

end Answer

/-- No live slot is lost. For any tasks with any requests on a store that is empty at first, and on
any schedule: the store has nothing but the slots that were put last under their keys, and has all
of them that are live. In whatever turn comes next, a live slot stays, unless the turn is that of a
task that deletes under its key, or puts another one there. A task that reads has answered with an
entry exactly if it has had two turns, and in the second one the slot under its key, the one that
was put there last, had not ended at the time of the first one and has that entry. -/
theorem run_keeps_live (now : Nat) (requests : List StoreRequest) (schedule : List Turn) :
    let start := SharedStore.start now requests
    let shared := start.run schedule
    (∀ key slot, shared.store.slotAt? key = some slot →
      StoreWrite.lastSlot? key (start.writes schedule) = some slot) ∧
    (∀ key slot, StoreWrite.lastSlot? key (start.writes schedule) = some slot →
      slot.isLiveAt shared.now = true → shared.store.slotAt? key = some slot) ∧
    (∀ key slot turn, shared.store.slotAt? key = some slot → slot.isLiveAt shared.now = true →
      (shared.take turn).store.slotAt? key = some slot ∨
      ∃ index, turn = .run index ∧
        (requests[index]? = some (.delete key) ∧ (shared.take turn).store.slotAt? key = none ∨
          ∃ next ttl, requests[index]? = some (.put key next.entry ttl) ∧
            (shared.take turn).store.slotAt? key = some next)) ∧
    ∀ index key entry, requests[index]? = some (.get key) →
      (shared.tasks[index]? = some (.answered (some entry)) ↔
        ∃ before between after slot,
          schedule = before ++ .run index :: (between ++ .run index :: after) ∧
          .run index ∉ before ∧ .run index ∉ between ∧
          let looked := before ++ .run index :: between
          (start.run looked).store.slotAt? key = some slot ∧
            StoreWrite.lastSlot? key (start.writes looked) = some slot ∧
            slot.isLiveAt (start.run before).now = true ∧ slot.entry = entry) := by
  intro start shared
  have hreflects : shared.Reflects (start.writes schedule) :=
    Reflects.run_start now requests schedule
  refine ⟨fun key slot hslot ↦ hreflects.sound key slot (MemoryStore.mem_of_slotAt? hslot),
    fun key slot hslot hlive ↦ ?_, fun key slot turn hslot hlive ↦ ?_,
    fun index key entry hrequest ↦ ⟨fun hanswered ↦ ?_, ?_⟩⟩
  · exact hreflects.slotAt?_eq_some_iff.mpr (hreflects.complete key slot hslot hlive)
  · have hmem := MemoryStore.mem_of_slotAt? hslot
    rcases hreflects.mem_take_or_write hmem hlive turn with hkept | ⟨index, task, written, hturn⟩
    · exact .inl ((hreflects.take turn).slotAt?_eq_some_iff.mpr hkept)
    · obtain ⟨rfl, htask, hwrite⟩ := hturn
      obtain ⟨request, hrequest, hserves⟩ := serves_of_run now schedule htask
      have hafter := slotAt?_take_of_write htask hwrite
      rcases StoreTask.request_of_write hserves hwrite with ⟨rfl, rfl⟩ | ⟨next, ttl, rfl, rfl⟩
      · exact .inr ⟨index, rfl, .inl ⟨hrequest, hafter⟩⟩
      · exact .inr ⟨index, rfl, .inr ⟨next, ttl, hrequest, hafter⟩⟩
  · obtain ⟨before, between, after, rfl, hbefore, hbetween⟩ :=
      exists_turns_of_answered (tasks_start_of_request now hrequest) hanswered
    obtain ⟨slot, hslot⟩ := (answered_iff_live now after hrequest hbefore hbetween).mp hanswered
    exact ⟨before, between, after, slot, rfl, hbefore, hbetween, hslot⟩
  · rintro ⟨before, between, after, slot, rfl, hbefore, hbetween, hslot⟩
    exact (answered_iff_live now after hrequest hbefore hbetween).mpr ⟨slot, hslot⟩

/-- A slot that ends at once is found by a task that reads, and then another is put in its place.
The task drops nothing, and answers without an entry. -/
example :
    let entry : FailureEntry :=
      ⟨⟨0, 0⟩, "products", "by_id", ["42"], "RemoteServiceError", "gone", some 404, .notFound, 0⟩
    let shared := (start 7 [.put "key" entry .zero, .get "key", .put "key" entry .max]).run
      [.run 0, .run 0, .run 1, .run 1, .run 2, .run 2, .run 1]
    shared.store.slotAt? "key" = some ⟨entry, none⟩ ∧ shared.tasks[1]? = some (.answered none) := by
  decide

end SharedStore

end ResourceLookup
