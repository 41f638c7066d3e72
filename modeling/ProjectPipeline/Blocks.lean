import ProjectPipeline.Programs
import ProjectPipeline.Runs

/-!
# Transaction Blocks of Several Clients

Clients of one database make their changes in blocks: the statements of a block are executed
one by one, and at the end the block is committed or rolled back. A transaction is deferred:
it begins with the first writing statement of the block. Until then every statement of the
block sees the committed database; from then on the client holds the write lock, works on a
copy of its own, and what it commits replaces the database as a whole. There is one write
lock; a client that does not get it waits, or is told that the database is locked.

A block is a program of statements (`Prog`) whose last value says whether to commit. The
meaning of the statements, `exec`, and which of them write are parameters.

* `Prog.atomically` executes a block when nobody else is active.
* `BlockMachine` executes the blocks of any number of clients, one statement at a time.

The statements before the first write are outside of the transaction, so what they have seen
may be out of date when the block writes. `Prog.SafeOut` says that a block keeps an invariant
of the committed databases even so, and `Prog.SafeIn` that the rest of a block does, from the
working copy that it has come to.

## Main results

* `BlockMachine.invariant`: if all blocks are safe, the invariant holds of everything that
  is ever committed.
* `Prog.Steady.bind`, `Prog.Steady.read`, `Prog.Steady.group`, …: the rules to show that a block
  is safe. A group of statements may break the invariant on the way.
-/

namespace ProjectPipeline

open Option

variable {ι δ κ α β : Type}

/-- The end of a block: commit or roll back, and return a value. -/
inductive Verdict (α : Type) where
  | commit (value : α)
  | rollback (value : α)

def Verdict.map (f : α → β) : Verdict α → Verdict β
  | commit value => commit (f value)
  | rollback value => rollback (f value)

namespace Prog

/-- `with connection:` — commit what has been done when the body returns. -/
def committing (body : Prog ι δ α) : Prog ι δ (Verdict α) := do
  let value ← body
  pure (.commit value)

/-- A block with nobody else around. An exception rolls it back. -/
def atomically (exec : ι → δ → δ) (block : Prog ι δ (Verdict α)) (db : δ) :
    Except PyError α × δ :=
  match block.run exec db with
  | (.ok (.commit value), db') => (.ok value, db')
  | (.ok (.rollback value), _) => (.ok value, db)
  | (.error error, _) => (.error error, db)

variable {exec : ι → δ → δ}

/-- A body that is committed has returned. -/
theorem run_committing_eq_ok {body : Prog ι δ α} {db db' : δ} {verdict : Verdict α}
    (h : body.committing.run exec db = (.ok verdict, db')) :
    ∃ value, verdict = .commit value ∧ body.run exec db = (.ok value, db') := by
  obtain ⟨value, db₁, hbody, hpure⟩ := run_bind_eq_ok h
  cases hpure
  exact ⟨value, rfl, hbody⟩

/-- A block that returns a value has committed, or has rolled back. -/
theorem atomically_eq_ok {block : Prog ι δ (Verdict α)} {db db' : δ} {value : α}
    (h : block.atomically exec db = (.ok value, db')) :
    block.run exec db = (.ok (.commit value), db') ∨
      db' = db ∧ ∃ db₁, block.run exec db = (.ok (.rollback value), db₁) := by
  rw [atomically] at h
  split at h
  · rename_i hrun
    cases h
    exact .inl hrun
  · rename_i db₁ hrun
    cases h
    exact .inr ⟨rfl, db₁, hrun⟩
  · cases h

/-- A block changes the database only if it commits. -/
theorem atomically_cases (block : Prog ι δ (Verdict α)) (db : δ) :
    (block.atomically exec db).2 = db ∨
      ∃ value, block.run exec db = (.ok (.commit value), (block.atomically exec db).2) := by
  rcases hrun : block.atomically exec db with ⟨result, db'⟩
  cases result with
  | ok value =>
    rcases atomically_eq_ok hrun with hcom | ⟨rfl, -⟩
    · exact .inr ⟨value, hcom⟩
    · exact .inl rfl
  | error =>
    rw [atomically] at hrun
    split at hrun
    · cases hrun
    · cases hrun
    · cases hrun
      exact .inl rfl

end Prog

/-! ### Many clients -/

/-- The state of the database and of the clients: what is committed, who holds the write lock
with which working copy, and the rest of the block that each client is in. -/
structure BlockMachine (ι δ κ α : Type) where
  committed : δ
  writer : Option (κ × δ) := none
  blocks : κ → Option (Prog ι δ (Verdict α)) := fun _ => none

/-- What can happen: a client makes a call and starts its block, executes the next statement,
is told that the database is locked, or ends the block. -/
inductive BlockEvent (κ γ : Type) where
  | start (client : κ) (call : γ)
  | statement (client : κ)
  | locked (client : κ)
  | finish (client : κ)

namespace BlockMachine

variable {γ : Type} [DecidableEq κ] (exec : ι → δ → δ) (writes : ι → Bool)
  (program : γ → Prog ι δ (Verdict α))

section

variable (m : BlockMachine ι δ κ α) (client : κ)

/-- The working copy of a client that holds the write lock. -/
def working : Option δ :=
  match m.writer with
  | some (holder, db) => if holder = client then some db else none
  | none => none

/-- What a client sees. -/
def view : δ := (m.working client).getD m.committed

/-- The client is at the given point of its block. -/
def continueWith (rest : Option (Prog ι δ (Verdict α))) : BlockMachine ι δ κ α :=
  { m with blocks := fun other => if other = client then rest else m.blocks other }

def execute (instr : ι) (next : δ → Prog ι δ (Verdict α)) : Option (BlockMachine ι δ κ α) :=
  match m.working client with
  | some db =>
    some { m.continueWith client (some (next db)) with writer := some (client, exec instr db) }
  | none =>
    if writes instr then
      match m.writer with
      | none =>
        some { m.continueWith client (some (next m.committed)) with
          writer := some (client, exec instr m.committed) }
      | some _ => none
    else some (m.continueWith client (some (next m.committed)))

def outcome (committed db : δ) : Except PyError (Verdict α) → δ
  | .ok (.commit _) => db
  | _ => committed

def close (result : Except PyError (Verdict α)) :
    BlockMachine ι δ κ α :=
  match m.working client with
  | none => m.continueWith client none
  | some db =>
    { m.continueWith client none with committed := outcome m.committed db result, writer := none }

end

/-- The state after an event, if the event can happen. -/
def step (m : BlockMachine ι δ κ α) : BlockEvent κ γ → Option (BlockMachine ι δ κ α)
  | .start client call =>
    match m.blocks client with
    | none => some (m.continueWith client (some (program call)))
    | some _ => none
  | .statement client =>
    match m.blocks client with
    | some (.step instr next) => m.execute exec writes client instr next
    | _ => none
  | .locked client =>
    match m.blocks client, m.writer with
    | some (.step instr _), some (holder, _) =>
      if writes instr = true ∧ holder ≠ client then
        some (m.continueWith client
          (some (.raise (.raised "OperationalError" "database is locked"))))
      else none
    | _, _ => none
  | .finish client =>
    match m.blocks client with
    | some (.done result) => some (m.close client result)
    | _ => none

/-- The statement that an event executes meets a condition on the database it is executed
on. -/
def Meets (ok : ι → δ → Prop) (m : BlockMachine ι δ κ α) : BlockEvent κ γ → Prop
  | .statement client =>
    match m.blocks client with
    | some (.step instr _) => ok instr (m.view client)
    | _ => True
  | _ => True

instance (ok : ι → δ → Prop) [∀ instr db, Decidable (ok instr db)] (m : BlockMachine ι δ κ α)
    (e : BlockEvent κ γ) : Decidable (m.Meets ok e) := by
  cases e with
  | statement =>
    rw [Meets]
    split <;> infer_instance
  | _ => exact isTrue trivial

end BlockMachine

/-! ### Safe blocks -/

namespace Prog

variable (exec : ι → δ → δ) (writes : ι → Bool) (Inv : δ → Prop) (ok : ι → δ → Prop)

/-- The rest of a block, in its transaction: if its statements meet the condition, it does
not commit a database without the invariant. -/
def SafeIn : Prog ι δ (Verdict α) → δ → Prop
  | done (.ok (.commit _)), db => Inv db
  | done _, _ => True
  | step instr next, db => ok instr db → (next db).SafeIn (exec instr db)

/-- A block before its transaction: each of its statements may see another database, but one
with the invariant. -/
def SafeOut : Prog ι δ (Verdict α) → Prop
  | done _ => True
  | step instr next =>
    if writes instr = true then
      ∀ db, Inv db → ok instr db → (next db).SafeIn exec Inv ok (exec instr db)
    else ∀ db, Inv db → (next db).SafeOut

end Prog

/-! ### Rules for safe blocks -/

namespace Prog

/-- The statements of a program that runs alone all meet the condition. -/
def Passes (exec : ι → δ → δ) (ok : ι → δ → Prop) : Prog ι δ α → δ → Prop
  | done _, _ => True
  | step instr next, db => ok instr db ∧ (next db).Passes exec ok (exec instr db)

/-- The program begins with a statement that writes. -/
def Writes (writes : ι → Bool) : Prog ι δ α → Prop
  | done _ => False
  | step instr _ => writes instr = true

/-- A block that is safe before its transaction, and in it from any database with the
invariant. -/
structure Safe (exec : ι → δ → δ) (writes : ι → Bool) (Inv : δ → Prop) (ok : ι → δ → Prop)
    (block : Prog ι δ (Verdict α)) : Prop where
  outside : block.SafeOut exec writes Inv ok
  inside : ∀ db, Inv db → block.SafeIn exec Inv ok db

/-- A part of a block after which the invariant holds: whatever safe block goes on from it, the
whole is safe. -/
structure Steady (exec : ι → δ → δ) (writes : ι → Bool) (Inv : δ → Prop) (ok : ι → δ → Prop)
    (p : Prog ι δ α) : Prop where
  safe : ∀ {β : Type} (rest : α → Prog ι δ (Verdict β)),
    (∀ a, (rest a).Safe exec writes Inv ok) → (p >>= rest).Safe exec writes Inv ok

variable {exec : ι → δ → δ} {writes : ι → Bool} {Inv : δ → Prop} {ok : ι → δ → Prop}
  {p : Prog ι δ α}

theorem SafeIn.bind {rest : α → Prog ι δ (Verdict β)} {db : δ}
    (h : ∀ a db', p.Passes exec ok db → p.run exec db = (.ok a, db') →
      (rest a).SafeIn exec Inv ok db') : (p >>= rest).SafeIn exec Inv ok db := by
  induction p generalizing db with
  | done result =>
    cases result with
    | ok a => exact h a db trivial rfl
    | error => exact trivial
  | step _ _ ih =>
    intro hok
    exact ih db fun a db' hpasses hrun => h a db' ⟨hok, hpasses⟩ hrun

theorem Safe.done (result : Except PyError (Verdict α)) :
    (done result : Prog ι δ (Verdict α)).Safe exec writes Inv ok where
  outside := trivial
  inside db hdb := by
    rcases result with error | value | value
    · exact trivial
    · exact hdb
    · exact trivial

namespace Steady

/-- A computation without a statement. -/
theorem ofExcept (result : Except PyError α) :
    (ofExcept result : Prog ι δ α).Steady exec writes Inv ok := by
  refine ⟨fun rest hrest => ?_⟩
  cases result with
  | ok a => exact hrest a
  | error => exact .done _

theorem bind {f : α → Prog ι δ β} (h : p.Steady exec writes Inv ok)
    (hf : ∀ a, (f a).Steady exec writes Inv ok) : (p >>= f).Steady exec writes Inv ok := by
  refine ⟨fun rest hrest => ?_⟩
  rw [bind_assoc]
  exact h.safe _ fun a => (hf a).safe rest hrest

theorem pure (a : α) : (pure a : Prog ι δ α).Steady exec writes Inv ok :=
  ofExcept (.ok a)

theorem map {f : α → β} (h : p.Steady exec writes Inv ok) :
    (f <$> p).Steady exec writes Inv ok :=
  h.bind fun a => pure (f a)

/-- A statement that only reads. -/
theorem read {instr : ι} {result : δ → Except PyError α} (hreads : writes instr = false)
    (hexec : ∀ db, exec instr db = db) : (call instr result).Steady exec writes Inv ok := by
  refine ⟨fun rest hrest => ?_⟩
  have hnext : ∀ db, (onReturn rest (result db)).Safe exec writes Inv ok := by
    intro db
    cases result db with
    | ok a => exact hrest a
    | error => exact .done _
  rw [call_bind]
  constructor
  · rw [SafeOut, if_neg (by simp [hreads])]
    exact fun db _ => (hnext db).outside
  · intro db hdb _
    rw [hexec]
    exact (hnext db).inside db hdb

/-- A group of statements in one transaction, after which the invariant holds again. -/
theorem group (hwrs : p.Writes writes)
    (hkp : ∀ db a db', Inv db → p.Passes exec ok db → p.run exec db = (.ok a, db') → Inv db') :
    p.Steady exec writes Inv ok := by
  refine ⟨fun rest hrest => ?_⟩
  have hinside : ∀ db, Inv db → (p >>= rest).SafeIn exec Inv ok db := fun db hdb =>
    SafeIn.bind fun a db' hpasses hrun => (hrest a).inside db' (hkp db a db' hdb hpasses hrun)
  refine ⟨?_, hinside⟩
  cases p with
  | done => exact hwrs.elim
  | step instr next =>
    have hfst : writes instr = true := hwrs
    change SafeOut exec writes Inv ok (step instr fun db => next db >>= rest)
    rw [SafeOut, if_pos hfst]
    exact fun db hdb hok => hinside db hdb hok

/-- A statement that writes and keeps the invariant. -/
theorem write {instr : ι} {result : δ → Except PyError α} (hwrs : writes instr = true)
    (hkp : ∀ db, Inv db → ok instr db → Inv (exec instr db)) :
    (call instr result).Steady exec writes Inv ok := by
  refine group hwrs ?_
  intro db a db' hdb hpasses hrun
  obtain ⟨-, rfl⟩ := Prod.mk.inj hrun
  exact hkp db hdb hpasses.1

end Steady

variable {block : Prog ι δ (Verdict α)}

theorem SafeIn.map {db : δ} (h : block.SafeIn exec Inv ok db) (f : α → β) :
    SafeIn exec Inv ok (block >>= fun verdict => pure (verdict.map f)) db := by
  induction block generalizing db with
  | done result =>
    rcases result with error | value | value
    · exact trivial
    · exact h
    · exact trivial
  | step _ _ ih => exact fun hok => ih db (h hok)

theorem SafeOut.map (h : block.SafeOut exec writes Inv ok) (f : α → β) :
    SafeOut exec writes Inv ok (block >>= fun verdict => pure (verdict.map f)) := by
  induction block with
  | done result => cases result <;> exact trivial
  | step instr next ih =>
    rw [SafeOut] at h
    change SafeOut exec writes Inv ok (step instr fun db =>
      next db >>= fun verdict => pure (verdict.map f))
    rw [SafeOut]
    split at h
    · rename_i hwrs
      rw [if_pos hwrs]
      exact fun db hdb hok => (h db hdb hok).map f
    · rename_i hreads
      rw [if_neg hreads]
      exact fun db hdb => ih db (h db hdb)

/-- A block with another value at its end. -/
theorem Safe.map (h : block.Safe exec writes Inv ok) (f : α → β) :
    Safe exec writes Inv ok (block >>= fun verdict => pure (verdict.map f)) :=
  ⟨h.outside.map f, fun db hdb => (h.inside db hdb).map f⟩

theorem Safe.committing {body : Prog ι δ α} (h : body.Steady exec writes Inv ok) :
    body.committing.Safe exec writes Inv ok :=
  h.safe _ fun _ => .done _

end Prog

namespace BlockMachine

variable {γ : Type} [DecidableEq κ] {exec : ι → δ → δ} {writes : ι → Bool}
  {program : γ → Prog ι δ (Verdict α)} {Inv : δ → Prop} {ok : ι → δ → Prop}

/-- The committed database has the invariant, and the blocks will keep it. -/
structure Safe (exec : ι → δ → δ) (writes : ι → Bool) (Inv : δ → Prop) (ok : ι → δ → Prop)
    (m : BlockMachine ι δ κ α) : Prop where
  committed : Inv m.committed
  inside : ∀ client block db, m.blocks client = some block → m.working client = some db →
    block.SafeIn exec Inv ok db
  outside : ∀ client block, m.blocks client = some block → m.working client = none →
    block.SafeOut exec writes Inv ok
  holder : ∀ client, m.blocks client = none → m.working client = none

variable {m m' : BlockMachine ι δ κ α} {client : κ} {db : δ}

/-- An event of one client. -/
theorem Safe.of_client (h : m.Safe exec writes Inv ok) (client : κ) (hcommitted : Inv m'.committed)
    (hblocks : ∀ other, other ≠ client → m'.blocks other = m.blocks other)
    (hworking : ∀ other, other ≠ client → m'.working other = m.working other)
    (hinside : ∀ block db, m'.blocks client = some block → m'.working client = some db →
      block.SafeIn exec Inv ok db)
    (houtside : ∀ block, m'.blocks client = some block → m'.working client = none →
      block.SafeOut exec writes Inv ok)
    (hhdr : m'.blocks client = none → m'.working client = none) :
    m'.Safe exec writes Inv ok where
  committed := hcommitted
  inside other block db hblk hdb := by
    by_cases hoth : other = client
    · subst hoth
      exact hinside block db hblk hdb
    · rw [hblocks other hoth] at hblk
      rw [hworking other hoth] at hdb
      exact h.inside other block db hblk hdb
  outside other block hblk hnone := by
    by_cases hoth : other = client
    · subst hoth
      exact houtside block hblk hnone
    · rw [hblocks other hoth] at hblk
      rw [hworking other hoth] at hnone
      exact h.outside other block hblk hnone
  holder other hblk := by
    by_cases hoth : other = client
    · subst hoth
      exact hhdr hblk
    · rw [hblocks other hoth] at hblk
      rw [hworking other hoth]
      exact h.holder other hblk

/-- A client that goes on without touching the lock. -/
theorem Safe.continueWith (h : m.Safe exec writes Inv ok) {rest : Prog ι δ (Verdict α)}
    (hinside : ∀ db, m.working client = some db → rest.SafeIn exec Inv ok db)
    (houtside : m.working client = none → rest.SafeOut exec writes Inv ok) :
    (m.continueWith client (some rest)).Safe exec writes Inv ok := by
  have hself : (m.continueWith client (some rest)).blocks client = some rest := if_pos rfl
  refine h.of_client client h.committed (fun other hoth => if_neg hoth) (fun _ _ => rfl) ?_ ?_ ?_
  · intro block db hblk hdb
    obtain rfl := some.inj (hself.symm.trans hblk)
    exact hinside db hdb
  · intro block hblk hnone
    obtain rfl := some.inj (hself.symm.trans hblk)
    exact houtside hnone
  · intro hblk
    rw [hself] at hblk
    cases hblk

theorem working_of_writer (h : m.writer = some (client, db)) (other : κ) :
    m.working other = if client = other then some db else none := by
  rw [working, h]

theorem working_of_free (h : m.writer = none) (other : κ) : m.working other = none := by
  rw [working, h]

/-- Who has a working copy holds the lock. -/
theorem writer_of_working (h : m.working client = some db) : m.writer = some (client, db) := by
  rw [working] at h
  split at h
  · rename_i holder db' hwriter
    split at h
    · rename_i hhdr
      cases h
      rw [hwriter, hhdr]
    · cases h
  · cases h

/-- A statement. -/
theorem Safe.execute (h : m.Safe exec writes Inv ok) {instr : ι} {next : δ → Prog ι δ (Verdict α)}
    (hblk : m.blocks client = some (.step instr next)) (hok : ok instr (m.view client))
    (hstep : m.execute exec writes client instr next = some m') : m'.Safe exec writes Inv ok := by
  rw [BlockMachine.execute] at hstep
  split at hstep
  · rename_i db hworking
    cases hstep
    have hwriter := writer_of_working hworking
    have hsafe := h.inside client _ db hblk hworking
    rw [view, hworking] at hok
    refine h.of_client client h.committed (fun other hoth => if_neg hoth) ?_ ?_ ?_
      fun hblk => by cases (if_pos rfl).symm.trans hblk
    · intro other hoth
      rw [working_of_writer rfl, working_of_writer hwriter, if_neg hoth.symm, if_neg hoth.symm]
    · intro block db' hrest hdb'
      rw [working_of_writer rfl, if_pos rfl] at hdb'
      cases hdb'
      obtain rfl := some.inj ((if_pos rfl).symm.trans hrest)
      exact hsafe hok
    · intro block _ hnone
      rw [working_of_writer rfl, if_pos rfl] at hnone
      cases hnone
  · rename_i hworking
    have hsafe := h.outside client _ hblk hworking
    rw [Prog.SafeOut] at hsafe
    rw [view, hworking, getD_none] at hok
    split at hstep
    · rename_i hwrs
      rw [if_pos hwrs] at hsafe
      split at hstep
      · rename_i hfree
        cases hstep
        refine h.of_client client h.committed (fun other hoth => if_neg hoth) ?_ ?_ ?_
          fun hblk => by cases (if_pos rfl).symm.trans hblk
        · intro other hoth
          rw [working_of_writer rfl, working_of_free hfree, if_neg hoth.symm]
        · intro block db' hrest hdb'
          rw [working_of_writer rfl, if_pos rfl] at hdb'
          cases hdb'
          obtain rfl := some.inj ((if_pos rfl).symm.trans hrest)
          exact hsafe m.committed h.committed hok
        · intro block _ hnone
          rw [working_of_writer rfl, if_pos rfl] at hnone
          cases hnone
      · cases hstep
    · rename_i hreads
      rw [if_neg hreads] at hsafe
      cases hstep
      refine h.continueWith (fun db hdb => ?_) fun _ => hsafe m.committed h.committed
      rw [hworking] at hdb
      cases hdb

/-- The end of a block. -/
theorem Safe.close (h : m.Safe exec writes Inv ok) {result : Except PyError (Verdict α)}
    (hblk : m.blocks client = some (.done result)) :
    (m.close client result).Safe exec writes Inv ok := by
  have hself : (m.continueWith client none).blocks client = none := if_pos rfl
  rw [BlockMachine.close]
  split
  · rename_i hworking
    refine h.of_client client h.committed (fun other hoth => if_neg hoth) (fun _ _ => rfl)
      ?_ ?_ fun _ => hworking
    · intro block _ hrest
      cases hself.symm.trans hrest
    · intro block hrest
      cases hself.symm.trans hrest
  · rename_i db hworking
    have hsafe := h.inside client _ db hblk hworking
    refine h.of_client client ?_ (fun other hoth => if_neg hoth) ?_ ?_ ?_
      fun _ => working_of_free rfl client
    · rcases result with error | value | value
      · exact h.committed
      · exact hsafe
      · exact h.committed
    · intro other hoth
      rw [working_of_free rfl, working_of_writer (writer_of_working hworking), if_neg hoth.symm]
    · intro block _ hrest
      cases hself.symm.trans hrest
    · intro block hrest
      cases hself.symm.trans hrest

section

variable (hprog : ∀ call, (program call).SafeOut exec writes Inv ok)
include hprog

/-- One event. -/
theorem Safe.step {e : BlockEvent κ γ} (h : m.Safe exec writes Inv ok) (hok : m.Meets ok e)
    (hstep : m.step exec writes program e = some m') :
    m'.Safe exec writes Inv ok := by
  cases e with
  | start client call =>
    rw [BlockMachine.step] at hstep
    split at hstep
    · rename_i hidle
      cases hstep
      refine h.continueWith (fun db hdb => ?_) fun _ => hprog call
      rw [h.holder client hidle] at hdb
      cases hdb
    · cases hstep
  | statement =>
    rw [BlockMachine.step] at hstep
    split at hstep
    · rename_i instr next hblk
      rw [Meets, hblk] at hok
      exact h.execute hblk hok hstep
    · cases hstep
  | locked =>
    rw [BlockMachine.step] at hstep
    split at hstep
    · split at hstep
      · cases hstep
        exact h.continueWith (fun _ _ => trivial) fun _ => trivial
      · cases hstep
    · cases hstep
  | finish =>
    rw [BlockMachine.step] at hstep
    split at hstep
    · rename_i result hblk
      cases hstep
      exact h.close hblk
    · cases hstep

/-- If all blocks are safe, everything that is ever committed has the invariant. -/
theorem invariant {db : δ} (hdb : Inv db) {events : List (BlockEvent κ γ)}
    {m : BlockMachine ι δ κ α}
    (hpath : Path (fun m e => BlockMachine.step exec writes program m e)
      (fun m e => m.Meets ok e) { committed := db } events m) : Inv m.committed := by
  refine (Path.invariant (fun h hok hstep => Safe.step hprog h hok hstep) hpath ?_).committed
  exact ⟨hdb, nofun, nofun, fun _ _ => rfl⟩

end

end BlockMachine

end ProjectPipeline
