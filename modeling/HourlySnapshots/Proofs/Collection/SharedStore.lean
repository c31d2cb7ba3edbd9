import HourlySnapshots.Store
import Mathlib.Data.List.Infix
import Mathlib.Data.List.Nodup

/-!
# A store with several callers

Whoever asks a store to write something is told at once if writes are refused, and waits for a turn
otherwise. A batch is written record by record by one caller at a time, while others go on asking,
masters are registered, and writes may come to be refused. All the same the ids keep in step with
the records, batches lie side by side, and each fund has one master: the store is at every moment
what the calls that were served make of it one after the other, and behind that lies what is written
of the batch at hand.
-/

namespace HourlySnapshots

namespace Store

variable {s : Store}

/-! ## Batches -/

theorem number_append (last : Nat) (batch more : List SnapshotRecord) :
    number last (batch ++ more) = number last batch ++ number (last + batch.length) more := by
  induction batch generalizing last with
  | nil => rfl
  | cons record rest ih => simp [number, ih, Nat.add_assoc, Nat.add_comm 1]

/-- A batch is given the ids that follow the last one. -/
theorem number_eq_zip (last : Nat) (batch : List SnapshotRecord) :
    number last batch = (List.range' (last + 1) batch.length).zip batch := by
  induction batch generalizing last with
  | nil => rfl
  | cons record rest ih => simp [number, ih, List.range'_succ]

theorem map_fst_number (last : Nat) (batch : List SnapshotRecord) :
    (number last batch).map (·.1) = List.range' (last + 1) batch.length := by
  rw [number_eq_zip, List.map_fst_zip (by simp)]

theorem insertBatch_of_open (h : s.failWrites = false) (batch : List SnapshotRecord) :
    s.insertBatch batch = (.ok (List.range' (s.lastId + 1) batch.length),
      { s with rows := s.rows ++ number s.lastId batch, lastId := s.lastId + batch.length }) := by
  simp [insertBatch, h, map_fst_number]

theorem registerIfAbsent_of_open (h : s.failWrites = false) (master : PortfolioMaster) :
    s.registerIfAbsent master =
      if s.portfolios.any fun kept => kept.fundName == master.fundName then (.ok false, s)
      else (.ok true, { s with portfolios := s.portfolios ++ [master] }) := by
  simp [registerIfAbsent, h]

/-- Registering has no part in the records. -/
theorem rows_registerIfAbsent (s : Store) (master : PortfolioMaster) :
    (s.registerIfAbsent master).2.rows = s.rows ∧
      (s.registerIfAbsent master).2.lastId = s.lastId := by
  unfold registerIfAbsent
  split
  · exact ⟨rfl, rfl⟩
  · split <;> exact ⟨rfl, rfl⟩

/-- Records have no part in registering. -/
theorem portfolios_insertBatch (s : Store) (batch : List SnapshotRecord) :
    (s.insertBatch batch).2.portfolios = s.portfolios := by
  unfold insertBatch
  split <;> rfl

/-- What comes of registering depends on the masters that are there, and on nothing else. -/
theorem registerIfAbsent_congr {s' : Store} (hopen : s.failWrites = false)
    (hopen' : s'.failWrites = false) (h : s'.portfolios = s.portfolios) (master : PortfolioMaster) :
    (s'.registerIfAbsent master).1 = (s.registerIfAbsent master).1 ∧
      (s'.registerIfAbsent master).2.portfolios = (s.registerIfAbsent master).2.portfolios := by
  rw [registerIfAbsent_of_open hopen, registerIfAbsent_of_open hopen', h]
  split
  · exact ⟨rfl, h⟩
  · exact ⟨rfl, rfl⟩

/-! ## Calls one after the other -/

/-- What a store is asked to write. -/
inductive Write where
  | insert (batch : List SnapshotRecord)
  | register (master : PortfolioMaster)

/-- What a caller is told. -/
inductive Answer where
  | inserted (ids : Except StoreError (List Nat))
  | registered (kept : Except StoreError Bool)

/-- What a caller is told who has the store for itself, and the store afterwards. -/
def perform (s : Store) : Write → Answer × Store
  | .insert batch => (.inserted (s.insertBatch batch).1, (s.insertBatch batch).2)
  | .register master => (.registered (s.registerIfAbsent master).1, (s.registerIfAbsent master).2)

/-- What every caller is told while writes are refused. -/
def Write.refusal : Write → Answer
  | insert _ => .inserted (.error offline)
  | register _ => .registered (.error offline)

/-- While writes are refused a call fails and changes nothing. -/
theorem perform_refused (h : s.failWrites = true) (write : Write) :
    s.perform write = (write.refusal, s) := by
  cases write <;> simp [perform, insertBatch, registerIfAbsent, h, Write.refusal]

/-- Ids that a caller is told. -/
def Answer.ids : Answer → List Nat
  | inserted (.ok ids) => ids
  | _ => []

@[simp] theorem Answer.ids_inserted (ids : List Nat) : (inserted (.ok ids)).ids = ids := rfl

@[simp] theorem Answer.ids_registered (kept : Except StoreError Bool) :
    (registered kept).ids = [] :=
  rfl

/-- Records of a caller with the ids that it was told. -/
def rowsOf : Write × Answer → List (Nat × SnapshotRecord)
  | (.insert batch, answer) => answer.ids.zip batch
  | (.register _, _) => []

/-- The master of a caller that was told that it is kept. -/
def newMaster? : Write × Answer → Option PortfolioMaster
  | (.register master, .registered (.ok true)) => some master
  | _ => none

/-- Calls with their answers, made one after the other, and the store that they leave behind. -/
inductive Served : List (Write × Answer) → Store → Prop
  | nothing : Served [] empty
  | next {talk : List (Write × Answer)} {s : Store} (h : Served talk s) (write : Write) :
      Served (talk ++ [(write, (s.perform write).1)]) (s.perform write).2

section

variable {talk : List (Write × Answer)}

/-- The records of a store are those of the callers that it has served. -/
structure RecordsOf (talk : List (Write × Answer)) (s : Store) : Prop where
  /-- Ids are counted from one, in the order of the records. -/
  numbered : s.rows.map (·.1) = List.range' 1 s.lastId
  /-- Each batch lies in one piece, under the ids that its caller was told. -/
  rows : s.rows = talk.flatMap rowsOf
  ids : talk.flatMap (·.2.ids) = s.rows.map (·.1)
  whole : ∀ batch answer, (.insert batch, answer) ∈ talk →
    ∃ ids, answer = .inserted (.ok ids) ∧ ids.length = batch.length

/-- The masters of a store are those whose callers were told that they are kept. -/
structure MastersOf (talk : List (Write × Answer)) (s : Store) : Prop where
  portfolios : s.portfolios = talk.filterMap newMaster?
  distinct : (s.portfolios.map PortfolioMaster.fundName).Nodup
  /-- Whatever a caller is told, there is a master of its fund. -/
  known : ∀ master answer, (.register master, answer) ∈ talk →
    ∃ kept, answer = .registered (.ok kept) ∧ ∃ m ∈ s.portfolios, m.fundName = master.fundName

theorem RecordsOf.insert (h : RecordsOf talk s) (hopen : s.failWrites = false)
    (batch : List SnapshotRecord) :
    RecordsOf (talk ++ [(.insert batch, (s.perform (.insert batch)).1)])
      (s.perform (.insert batch)).2 := by
  simp only [perform, insertBatch_of_open hopen]
  constructor
  · simp only [List.map_append, h.numbered, map_fst_number, ← List.range'_append_1]
    rw [Nat.add_comm 1]
  · simp [h.rows, rowsOf, number_eq_zip]
  · rw [List.flatMap_append, h.ids]
    simp [map_fst_number]
  · intro other answer hmem
    rcases List.mem_append.mp hmem with hbefore | hlast
    · exact h.whole other answer hbefore
    · obtain ⟨hsame, rfl⟩ := Prod.mk.inj (List.mem_singleton.mp hlast)
      obtain rfl := Write.insert.inj hsame
      exact ⟨_, rfl, List.length_range'⟩

theorem RecordsOf.register (h : RecordsOf talk s) (master : PortfolioMaster) :
    RecordsOf (talk ++ [(.register master, (s.perform (.register master)).1)])
      (s.perform (.register master)).2 := by
  obtain ⟨hrows, hlast⟩ := rows_registerIfAbsent s master
  simp only [perform]
  constructor
  · rw [hrows, hlast]
    exact h.numbered
  · rw [hrows, h.rows]
    simp [rowsOf]
  · rw [hrows, List.flatMap_append, h.ids]
    simp
  · intro batch answer hmem
    rcases List.mem_append.mp hmem with hbefore | hnew
    · exact h.whole batch answer hbefore
    · cases (Prod.mk.inj (List.mem_singleton.mp hnew)).1

theorem MastersOf.insert (h : MastersOf talk s) (batch : List SnapshotRecord) :
    MastersOf (talk ++ [(.insert batch, (s.perform (.insert batch)).1)])
      (s.perform (.insert batch)).2 := by
  have hkept := portfolios_insertBatch s batch
  simp only [perform]
  constructor
  · rw [hkept, h.portfolios]
    simp [newMaster?]
  · rw [hkept]
    exact h.distinct
  · rw [hkept]
    intro master answer hmem
    rcases List.mem_append.mp hmem with hbefore | hnew
    · exact h.known master answer hbefore
    · cases (Prod.mk.inj (List.mem_singleton.mp hnew)).1

theorem MastersOf.register (h : MastersOf talk s) (hopen : s.failWrites = false)
    (master : PortfolioMaster) :
    MastersOf (talk ++ [(.register master, (s.perform (.register master)).1)])
      (s.perform (.register master)).2 := by
  -- whoever was served before knows of a master that is still there
  have hknown {portfolios : List PortfolioMaster} {answer : Answer}
      (hkept : ∀ m ∈ s.portfolios, m ∈ portfolios)
      (hown : ∃ kept, answer = .registered (.ok kept) ∧
        ∃ m ∈ portfolios, m.fundName = master.fundName) :
      ∀ other told, (.register other, told) ∈ talk ++ [(.register master, answer)] →
        ∃ kept, told = .registered (.ok kept) ∧
          ∃ m ∈ portfolios, m.fundName = other.fundName := by
    intro other told hmem
    rcases List.mem_append.mp hmem with hbefore | hnew
    · obtain ⟨kept, htold, m, hm, hname⟩ := h.known other told hbefore
      exact ⟨kept, htold, m, hkept m hm, hname⟩
    · obtain ⟨hsame, rfl⟩ := Prod.mk.inj (List.mem_singleton.mp hnew)
      obtain rfl := Write.register.inj hsame
      exact hown
  simp only [perform, registerIfAbsent_of_open hopen]
  split
  · next hold =>
    obtain ⟨m, hm, hname⟩ := List.any_eq_true.mp hold
    constructor
    · simp [h.portfolios, newMaster?]
    · exact h.distinct
    · exact hknown (fun _ => id) ⟨false, rfl, m, hm, beq_iff_eq.mp hname⟩
  · next hnone =>
    have hfresh : master.fundName ∉ s.portfolios.map PortfolioMaster.fundName := by
      intro hmem
      obtain ⟨m, hm, hname⟩ := List.mem_map.mp hmem
      exact hnone (List.any_eq_true.mpr ⟨m, hm, beq_iff_eq.mpr hname⟩)
    constructor
    · simp [h.portfolios, newMaster?]
    · rw [List.map_append]
      exact h.distinct.append (List.nodup_singleton _) (List.disjoint_singleton.mpr hfresh)
    · exact hknown (fun _ => List.mem_append_left _)
        ⟨true, rfl, master, List.mem_append_right _ (List.mem_singleton_self _), rfl⟩

theorem failWrites_perform (s : Store) (write : Write) :
    (s.perform write).2.failWrites = s.failWrites := by
  cases write with
  | insert batch =>
    simp only [perform, insertBatch]
    split <;> rfl
  | register master =>
    simp only [perform, registerIfAbsent]
    split
    · rfl
    · split <;> rfl

/-- Nobody is served by a store that refuses writes. -/
theorem Served.failWrites_eq (h : Served talk s) : s.failWrites = false := by
  induction h with
  | nothing => rfl
  | next _ write ih => rw [failWrites_perform, ih]

theorem Served.records (h : Served talk s) : RecordsOf talk s := by
  induction h with
  | nothing => exact ⟨rfl, rfl, rfl, fun _ _ hmem => by cases hmem⟩
  | next hbefore write ih =>
    cases write with
    | insert batch => exact ih.insert hbefore.failWrites_eq batch
    | register master => exact ih.register master

theorem Served.masters (h : Served talk s) : MastersOf talk s := by
  induction h with
  | nothing => exact ⟨rfl, List.nodup_nil, fun _ _ hmem => by cases hmem⟩
  | next hbefore write ih =>
    cases write with
    | insert batch => exact ih.insert batch
    | register master => exact ih.register hbefore.failWrites_eq master

end

end Store

/-! ## Calls in between others -/

open Store (Write Answer Served)

/-- A batch at hand: what is written of it and under which ids, and what is still to be written. -/
structure Writing where
  batch : List SnapshotRecord
  written : List SnapshotRecord
  ids : List Nat
  rest : List SnapshotRecord

/-- A store with those who wait for it and with what others have been told. -/
structure SharedStore where
  store : Store
  /-- What callers want to write who have found writes open and have not had their turn. -/
  waiting : List Write
  /-- The batch at hand, if there is one; no other is begun before it is finished. -/
  writing : Option Writing
  /-- What callers were told who have had their turn, in the order of their turns. -/
  served : List (Write × Answer)
  /-- What callers were told who have found writes refused. -/
  refused : List (Write × Answer)

namespace SharedStore

/-- What can happen to a shared store. -/
inductive Move where
  /-- Writes are refused from now on, or no longer. -/
  | setFailWrites (fail : Bool)
  /-- Somebody asks for something to be written, and looks whether writes are refused. -/
  | ask (write : Write)
  /-- Somebody who waits is given a turn. -/
  | serve (place : Nat)
  /-- Somebody who waits goes away. -/
  | leave (place : Nat)
  /-- The next record of the batch at hand is written. -/
  | writeNext
  /-- The caller whose batch is all written is told the ids. -/
  | finish

/-- A shared store before the first call. -/
def new : SharedStore := ⟨.empty, [], none, [], []⟩

variable (t : SharedStore)

def ask (write : Write) : SharedStore :=
  if t.store.failWrites then
    { t with
      store := (t.store.perform write).2
      refused := t.refused ++ [(write, (t.store.perform write).1)] }
  else { t with waiting := t.waiting ++ [write] }

/-- The store as somebody sees it who has found writes open, whether or not they are by now. -/
def found : Store := t.store.setFailWrites false

/-- Puts back a store that somebody has written to. -/
def putBack (store : Store) : SharedStore :=
  { t with store := store.setFailWrites t.store.failWrites }

/-- A batch waits for the batch at hand; a master does not. -/
def serve (place : Nat) : SharedStore :=
  match t.waiting[place]?, t.writing with
  | some (.insert batch), none =>
    { t with waiting := t.waiting.eraseIdx place, writing := some ⟨batch, [], [], batch⟩ }
  | some (.register master), _ =>
    let (answer, store) := t.found.perform (.register master)
    { t.putBack store with
      waiting := t.waiting.eraseIdx place
      served := t.served ++ [(.register master, answer)] }
  | _, _ => t

def leave (place : Nat) : SharedStore := { t with waiting := t.waiting.eraseIdx place }

def writeNext : SharedStore :=
  match t.writing with
  | some ⟨batch, written, ids, record :: rest⟩ =>
    let (answer, store) := t.found.perform (.insert [record])
    { t.putBack store with
      writing := some ⟨batch, written ++ [record], ids ++ answer.ids, rest⟩ }
  | _ => t

def finish : SharedStore :=
  match t.writing with
  | some ⟨batch, _, ids, []⟩ =>
    { t with writing := none, served := t.served ++ [(.insert batch, .inserted (.ok ids))] }
  | _ => t

/-- One move; a move that is not possible changes nothing. -/
def step : Move → SharedStore
  | .setFailWrites fail => { t with store := t.store.setFailWrites fail }
  | .ask write => t.ask write
  | .serve place => t.serve place
  | .leave place => t.leave place
  | .writeNext => t.writeNext
  | .finish => t.finish

/-- Several moves, one after the other. -/
def run (moves : List Move) : SharedStore := moves.foldl step t

/-! ## The store at every moment -/

/-- What is written of the batch at hand. -/
def written : List SnapshotRecord := t.writing.elim [] Writing.written

/-- The ids of that. -/
def ids : List Nat := t.writing.elim [] Writing.ids

variable {t} {s : Store}

/-- The batch at hand is written to a store as far as it is, and nothing else has changed. -/
structure AheadOf (s : Store) (t : SharedStore) : Prop where
  rows : t.store.rows = s.rows ++ Store.number s.lastId t.written
  lastId : t.store.lastId = s.lastId + t.written.length
  portfolios : t.store.portfolios = s.portfolios
  ids : t.ids = List.range' (s.lastId + 1) t.written.length
  whole : ∀ w ∈ t.writing, w.written ++ w.rest = w.batch

/-- The store is what those who were served have left behind, and behind it the batch at hand. -/
def Sequential (t : SharedStore) : Prop := ∃ s, Served t.served s ∧ AheadOf s t

namespace Sequential

theorem new : SharedStore.new.Sequential :=
  ⟨.empty, .nothing, rfl, rfl, rfl, rfl, fun _ h => by cases h⟩

/-- A move that neither writes nor serves anybody changes nothing of that. -/
theorem of_same {t' : SharedStore} (h : t.Sequential) (hrows : t'.store.rows = t.store.rows)
    (hlast : t'.store.lastId = t.store.lastId) (hmasters : t'.store.portfolios = t.store.portfolios)
    (hwriting : t'.writing = t.writing) (hserved : t'.served = t.served) : t'.Sequential := by
  obtain ⟨s, hs, hahead⟩ := h
  have hwritten : t'.written = t.written := by rw [written, written, hwriting]
  refine ⟨s, hserved ▸ hs, ?_, ?_, ?_, ?_, ?_⟩
  · rw [hrows, hwritten, hahead.rows]
  · rw [hlast, hwritten, hahead.lastId]
  · rw [hmasters, hahead.portfolios]
  · rw [hwritten, ← hahead.ids, SharedStore.ids, SharedStore.ids, hwriting]
  · rw [hwriting]
    exact hahead.whole

theorem ask (h : t.Sequential) (write : Write) : (t.ask write).Sequential := by
  unfold SharedStore.ask
  split
  · next hrefuse =>
    rw [Store.perform_refused hrefuse]
    exact h.of_same rfl rfl rfl rfl rfl
  · exact h.of_same rfl rfl rfl rfl rfl

theorem serve (h : t.Sequential) (place : Nat) : (t.serve place).Sequential := by
  unfold SharedStore.serve
  split
  · next batch _ hnone =>
    obtain ⟨s, hs, hahead⟩ := h
    have hwritten : t.written = [] := by rw [written, hnone]; rfl
    refine ⟨s, hs, ?_, ?_, hahead.portfolios, rfl, ?_⟩
    · rw [hahead.rows, hwritten]
      rfl
    · rw [hahead.lastId, hwritten]
      rfl
    · intro w hw
      obtain rfl := Option.some.inj hw
      rfl
  · next master _ =>
    obtain ⟨s, hs, hahead⟩ := h
    have hfound : t.found.failWrites = false := rfl
    obtain ⟨hanswer, hmasters⟩ := Store.registerIfAbsent_congr hs.failWrites_eq hfound
      hahead.portfolios master
    obtain ⟨hrows, hlast⟩ := Store.rows_registerIfAbsent s master
    obtain ⟨hrows', hlast'⟩ := Store.rows_registerIfAbsent t.found master
    have hserved := hs.next (.register master)
    simp only [Store.perform] at hserved ⊢
    refine ⟨_, hanswer ▸ hserved, ?_, ?_, hmasters, ?_, hahead.whole⟩
    · rw [hrows, hlast]
      exact hrows'.trans hahead.rows
    · rw [hlast]
      exact hlast'.trans hahead.lastId
    · rw [hlast]
      exact hahead.ids
  · exact h

theorem writeNext (h : t.Sequential) : t.writeNext.Sequential := by
  unfold SharedStore.writeNext
  split
  · next batch written ids record rest hwriting =>
    obtain ⟨s, hs, hahead⟩ := h
    have hwritten : t.written = written := by rw [SharedStore.written, hwriting]; rfl
    have hids : t.ids = ids := by rw [SharedStore.ids, hwriting]; rfl
    have hopen : t.found.failWrites = false := rfl
    simp only [Store.perform, Store.insertBatch_of_open hopen]
    have hrows := hahead.rows
    have hlast := hahead.lastId
    have hnumbers := hahead.ids
    rw [hwritten] at hrows hlast hnumbers
    rw [hids] at hnumbers
    refine ⟨s, hs, ?_, ?_, hahead.portfolios, ?_, ?_⟩
    · show t.store.rows ++ Store.number t.store.lastId [record] =
        s.rows ++ Store.number s.lastId (written ++ [record])
      rw [hrows, hlast, Store.number_append, List.append_assoc]
    · show t.store.lastId + 1 = s.lastId + (written ++ [record]).length
      rw [hlast, List.length_append, List.length_singleton, Nat.add_assoc]
    · show ids ++ List.range' (t.store.lastId + 1) 1 =
        List.range' (s.lastId + 1) (written ++ [record]).length
      rw [hnumbers, hlast, List.length_append, List.length_singleton, ← List.range'_append_1,
        Nat.add_right_comm]
    · intro w hw
      obtain rfl := Option.some.inj hw
      rw [← hahead.whole _ hwriting]
      simp
  · exact h

theorem finish (h : t.Sequential) : t.finish.Sequential := by
  unfold SharedStore.finish
  split
  · next batch written ids hwriting =>
    obtain ⟨s, hs, hahead⟩ := h
    have hbatch : written ++ [] = batch := hahead.whole _ hwriting
    have hwritten : t.written = batch := by
      rw [SharedStore.written, hwriting, ← hbatch, List.append_nil]
      rfl
    have hids : t.ids = ids := by rw [SharedStore.ids, hwriting]; rfl
    have hserved := hs.next (.insert batch)
    simp only [Store.perform, Store.insertBatch_of_open hs.failWrites_eq, ← hwritten,
      ← hahead.ids] at hserved
    rw [hids, hwritten] at hserved
    refine ⟨_, hserved, ?_, ?_, hahead.portfolios, rfl, fun w hw => by cases hw⟩
    · show t.store.rows = s.rows ++ Store.number s.lastId batch ++ []
      rw [hahead.rows, hwritten, List.append_nil]
    · show t.store.lastId = s.lastId + batch.length + 0
      rw [hahead.lastId, hwritten, Nat.add_zero]
  · exact h

theorem step (h : t.Sequential) (move : Move) : (t.step move).Sequential := by
  cases move with
  | setFailWrites fail => exact h.of_same rfl rfl rfl rfl rfl
  | ask write => exact h.ask write
  | serve place => exact h.serve place
  | leave place => exact h.of_same rfl rfl rfl rfl rfl
  | writeNext => exact h.writeNext
  | finish => exact h.finish

theorem run (h : t.Sequential) (moves : List Move) : (t.run moves).Sequential := by
  induction moves generalizing t with
  | nil => exact h
  | cons move rest ih => exact ih (h.step move)

end Sequential

/-- What is told, what is stored and how it is counted agree at a moment. -/
structure InStep (t : SharedStore) : Prop where
  /-- The ids are the numbers from one on, in the order of the records, without gap or repeat. -/
  numbered : t.store.rows.map (·.1) = List.range' 1 t.store.rows.length
  lastId : t.store.lastId = t.store.rows.length
  /-- Each id is told to one caller, or belongs to the batch at hand. -/
  told : t.served.flatMap (·.2.ids) ++ t.ids = t.store.rows.map (·.1)
  /-- The batches lie side by side, each with the ids that its caller was told. -/
  rows : t.store.rows = t.served.flatMap Store.rowsOf ++ t.ids.zip t.written
  whole : ∀ batch answer, (.insert batch, answer) ∈ t.served →
    ∃ ids, answer = .inserted (.ok ids) ∧ ids.length = batch.length
  /-- The masters are those that callers were told are kept, no two of them of one fund. -/
  masters : t.store.portfolios = t.served.filterMap Store.newMaster?
  distinct : ((t.served.filterMap Store.newMaster?).map PortfolioMaster.fundName).Nodup
  /-- A caller that is told that its master is not kept is told so for another one of the fund. -/
  known : ∀ master answer, (.register master, answer) ∈ t.served →
    ∃ kept, answer = .registered (.ok kept) ∧
      ∃ m ∈ t.store.portfolios, m.fundName = master.fundName

theorem Sequential.inStep (h : t.Sequential) : t.InStep := by
  obtain ⟨s, hs, hahead⟩ := h
  have hrecords := hs.records
  have hmasters := hs.masters
  have hcount : s.lastId = s.rows.length := by
    rw [← List.length_map (f := (·.1)), hrecords.numbered, List.length_range']
  have hids : t.store.rows.map (·.1) = s.rows.map (·.1) ++ t.ids := by
    rw [hahead.rows, List.map_append, Store.map_fst_number, hahead.ids]
  have hlast : t.store.lastId = t.store.rows.length := by
    rw [hahead.lastId, hahead.rows, List.length_append, Store.number_eq_zip, List.length_zip,
      List.length_range', Nat.min_self, hcount]
  constructor
  · rw [hids, hrecords.numbered, hahead.ids, ← hlast, hahead.lastId, ← List.range'_append_1,
      Nat.add_comm 1]
  · exact hlast
  · rw [hids, hrecords.ids]
  · rw [hahead.rows, hrecords.rows, Store.number_eq_zip, hahead.ids]
  · exact hrecords.whole
  · rw [hahead.portfolios, hmasters.portfolios]
  · rw [← hmasters.portfolios]
    exact hmasters.distinct
  · rw [hahead.portfolios]
    exact hmasters.known

/-- Nobody is told anything else later. -/
theorem served_prefix_run (t : SharedStore) (moves : List Move) :
    t.served <+: (t.run moves).served := by
  have hstep (t : SharedStore) (move : Move) : t.served <+: (t.step move).served := by
    cases move with
    | setFailWrites fail => exact List.prefix_rfl
    | ask write =>
      simp only [step, ask]
      split <;> exact List.prefix_rfl
    | serve place =>
      simp only [step, serve]
      split
      · exact List.prefix_rfl
      · exact List.prefix_append _ _
      · exact List.prefix_rfl
    | leave place => exact List.prefix_rfl
    | writeNext =>
      simp only [step, writeNext]
      split <;> exact List.prefix_rfl
    | finish =>
      simp only [step, finish]
      split
      · exact List.prefix_append _ _
      · exact List.prefix_rfl
  induction moves generalizing t with
  | nil => exact List.prefix_rfl
  | cons move rest ih => exact (hstep t move).trans (ih (t.step move))

theorem InStep.batch_infix (h : t.InStep) {batch : List SnapshotRecord} {ids : List Nat}
    (hserved : (.insert batch, .inserted (.ok ids)) ∈ t.served) :
    ids.zip batch <:+: t.store.rows := by
  obtain ⟨before, after, hsplit⟩ := List.append_of_mem hserved
  rw [h.rows, hsplit, List.flatMap_append, List.flatMap_cons, List.append_assoc, List.append_assoc]
  exact ⟨_, _, List.append_assoc _ _ _⟩

/-- The master that a caller was told is kept is the only one of its fund. -/
theorem InStep.only_master (h : t.InStep) {master : PortfolioMaster}
    (hserved : (.register master, .registered (.ok true)) ∈ t.served) :
    master ∈ t.store.portfolios ∧
      ∀ m ∈ t.store.portfolios, m.fundName = master.fundName → m = master := by
  have hmem : master ∈ t.store.portfolios := by
    rw [h.masters]
    exact List.mem_filterMap.mpr ⟨_, hserved, rfl⟩
  refine ⟨hmem, fun m hm hname => ?_⟩
  exact List.inj_on_of_nodup_map (h.masters ▸ h.distinct) hm hmem hname

/--
However calls to a store come in between each other, ids and records agree at every moment, and so
do masters and what callers are told of them; the store is what the callers that were served make of
it one after the other, with the batch at hand behind that. While writes are refused a call is told
so and changes nothing. A batch stays in one piece under the ids that its caller was told, and the
master that a caller was told is kept stays the only one of its fund.
-/
theorem calls_keep_in_step (moves more : List Move) :
    let t := new.run moves
    let later := t.run more
    t.InStep ∧ t.Sequential ∧
      (t.store.failWrites = true → ∀ write,
        t.step (.ask write) = { t with refused := t.refused ++ [(write, write.refusal)] }) ∧
      t.served <+: later.served ∧
      (∀ batch ids, (.insert batch, .inserted (.ok ids)) ∈ t.served →
        ids.zip batch <:+: later.store.rows) ∧
      (∀ master, (.register master, .registered (.ok true)) ∈ t.served →
        master ∈ later.store.portfolios ∧
          ∀ m ∈ later.store.portfolios, m.fundName = master.fundName → m = master) := by
  intro t later
  have hsequential : t.Sequential := Sequential.new.run moves
  have hlater : later.InStep := (hsequential.run more).inStep
  have hgrows : t.served <+: later.served := served_prefix_run t more
  refine ⟨hsequential.inStep, hsequential, fun hrefuse write => ?_, hgrows,
    fun batch ids hserved => ?_, fun master hserved => ?_⟩
  · simp only [step, ask, if_pos hrefuse, Store.perform_refused hrefuse]
  · exact hlater.batch_infix (hgrows.subset hserved)
  · exact hlater.only_master (hgrows.subset hserved)

/--
Writes come to be refused while a batch is at hand: it is written to its end, and the other one that
waits has its turn later.
-/
theorem two_batches_between_refusals :
    let record (key : String) : SnapshotRecord :=
      { (default : SnapshotRecord) with subjectKey := key }
    let first := [record "w1:BTC", record "w1:ETH"]
    let second := [record "w2:BTC"]
    let master (status : String) : PortfolioMaster := ⟨"Alpha", "", "", status, none⟩
    let moves : List Move := [.ask (.insert first), .ask (.insert second),
      .ask (.register (master "running")), .serve 0, .writeNext, .serve 0, .serve 1,
      .setFailWrites true, .writeNext, .finish]
    let more : List Move := [.ask (.insert first), .setFailWrites false,
      .ask (.register (master "closed")), .serve 0, .serve 0, .writeNext, .finish]
    ((new.run moves).store.failWrites = true ∧
      (.insert first, .inserted (.ok [1, 2])) ∈ (new.run moves).served ∧
      (.register (master "running"), .registered (.ok true)) ∈ (new.run moves).served) ∧
    (new.run moves).step (.ask (.insert second)) =
      { new.run moves with
        refused := (new.run moves).refused ++ [(.insert second, Write.refusal (.insert second))] } ∧
    [1, 2].zip first <:+: ((new.run moves).run more).store.rows ∧
    ((new.run moves).run more).store.rows.map (·.1) = [1, 2, 3] ∧
    master "running" ∈ ((new.run moves).run more).store.portfolios ∧
    ((new.run moves).run more).store.portfolios.length = 1 := by
  intro record first second master moves more
  have hserved : (new.run moves).served = [(.register (master "running"), .registered (.ok true)),
      (.insert first, .inserted (.ok [1, 2]))] := rfl
  have hrefuse : (new.run moves).store.failWrites = true := rfl
  have hinsert : (.insert first, .inserted (.ok [1, 2])) ∈ (new.run moves).served :=
    hserved ▸ .tail _ (.head _)
  have hregister :
      (.register (master "running"), .registered (.ok true)) ∈ (new.run moves).served :=
    hserved ▸ .head _
  obtain ⟨-, -, hask, -, hbatch, hmaster⟩ := calls_keep_in_step moves more
  exact ⟨⟨hrefuse, hinsert, hregister⟩, hask hrefuse (.insert second),
    hbatch _ _ hinsert, by decide +kernel, (hmaster _ hregister).1, by decide +kernel⟩

end SharedStore

end HourlySnapshots
