import ShipMotion.IndustrialMqttClientTheorems

/-!
# The flags of the threads

`thread_exit_` and `is_running_` are written under `mqtt_mutex_` only: by `start`, which clears
the one and then sets the other, and by `stop`, which does the opposite. What a thread has written
stays until it gives the mutex back; and a worker that finds `is_running_` false under the mutex
has to exit.
-/

namespace ShipMotion
namespace IndustrialMqttClient

open Utils

variable {ι : Type} [DecidableEq ι] {config_ : MqttConfig} {s t : Client ι}

/-! ## What the threads have written -/

/-- Behind its writes `stop` finds the flags as it left them. -/
def StopPc.FlagsOk (thread_exit_ is_running_ : Bool) : StopPc → Prop
  | .lock | .testRunning | .setExit => True
  | .clearRunning => thread_exit_ = true
  | .testHandle | .free _ | .clearHandle | .clearConnected | .callback =>
    thread_exit_ = true ∧ is_running_ = false

/-- And `start` its own. -/
def StartPc.FlagsOk (is_running_ : Bool) : StartPc → Prop
  | .clearAttempts | .testJoinable | .join | .spawn => is_running_ = true
  | _ => True

def CallerPc.FlagsOk (thread_exit_ is_running_ : Bool) : CallerPc → Prop
  | .start pc => pc.FlagsOk is_running_
  | .stop pc => pc.FlagsOk thread_exit_ is_running_
  | _ => True

def WorkerPc.FlagsOk (thread_exit_ is_running_ : Bool) : WorkerPc → Prop
  | .stop pc => pc.FlagsOk thread_exit_ is_running_
  | _ => True

/-- Outside the mutex nothing is known. -/
theorem CallerPc.flagsOk_of_outside {pc : CallerPc} (h : pc.role = .outside) (exit running : Bool) :
    pc.FlagsOk exit running := by
  cases pc with
  | start pc => cases pc <;> trivial
  | stop pc => cases pc <;> trivial
  | _ => trivial

theorem WorkerPc.flagsOk_of_outside {pc : WorkerPc} (h : pc.role = .outside) (exit running : Bool) :
    pc.FlagsOk exit running := by
  cases pc with
  | stop pc => cases pc <;> trivial
  | _ => trivial

/-- The flags are as the thread in the mutex left them; a client with a worker that is not running
has to exit, unless a `start` is between its two writes. -/
structure FlagInv (s : Client ι) : Prop where
  callers : ∀ i, (s.callers i).FlagsOk s.thread_exit_ s.is_running_
  worker : s.worker.FlagsOk s.thread_exit_ s.is_running_
  stopped : s.worker ≠ .notStarted → s.is_running_ = false →
    s.thread_exit_ = true ∨ ∃ i, s.callers i = .start .setRunning

/-- A thread leaves the flags alone, or it is the one inside. -/
def KeepsFlags (s t : Client ι) (u : ThreadId ι) : Prop :=
  (t.thread_exit_ = s.thread_exit_ ∧ t.is_running_ = s.is_running_) ∨ role s u ≠ .outside

omit [DecidableEq ι] in
/-- What other callers know stays true. -/
theorem FlagInv.caller_of_ne (h : FlagInv s) (hguard : (guard s).Inv) {u : ThreadId ι}
    (hflags : KeepsFlags s t u) {j : ι} (hj : ThreadId.caller j ≠ u) :
    (s.callers j).FlagsOk t.thread_exit_ t.is_running_ := by
  rcases hflags with ⟨hexit, hrunning⟩ | hinside
  · rw [hexit, hrunning]
    exact h.callers j
  · exact CallerPc.flagsOk_of_outside (hguard.outside_of_ne hinside hj) _ _

omit [DecidableEq ι] in
/-- And what the worker knows, if it is another thread. -/
theorem FlagInv.worker_of_ne (h : FlagInv s) (hguard : (guard s).Inv) {u : ThreadId ι}
    (hflags : KeepsFlags s t u) (hu : ThreadId.worker ≠ u) :
    s.worker.FlagsOk t.thread_exit_ t.is_running_ := by
  rcases hflags with ⟨hexit, hrunning⟩ | hinside
  · rw [hexit, hrunning]
    exact h.worker
  · exact WorkerPc.flagsOk_of_outside (hguard.outside_of_ne hinside hu) _ _

/-! ## The steps -/

omit [DecidableEq ι] in
/-- A step of `stop` leaves the flags alone or makes the client exit, and knows what it wrote. -/
theorem StopMoves.flags {self : ThreadId ι} {pc : StopPc} {next : Option StopPc}
    (h : StopMoves s self pc t next) (hpc : pc.FlagsOk s.thread_exit_ s.is_running_) :
    ((t.thread_exit_ = s.thread_exit_ ∧ t.is_running_ = s.is_running_) ∨
      (t.thread_exit_ = true ∧ pc.role ≠ .outside)) ∧
    ∀ pc' ∈ next, pc'.FlagsOk t.thread_exit_ t.is_running_ := by
  cases h with
  | setExit =>
    refine ⟨.inr ⟨rfl, fun hrole => by cases hrole⟩, fun pc' hpc' => ?_⟩
    cases hpc'
    exact rfl
  | clearRunning =>
    refine ⟨.inr ⟨hpc, fun hrole => by cases hrole⟩, fun pc' hpc' => ?_⟩
    cases hpc'
    exact ⟨hpc, rfl⟩
  | notRunning | callback => exact ⟨.inl ⟨rfl, rfl⟩, fun pc' hpc' => by cases hpc'⟩
  | lock | isRunning =>
    refine ⟨.inl ⟨rfl, rfl⟩, fun pc' hpc' => ?_⟩
    cases hpc'
    trivial
  | handle | noHandle | free | clearHandle | clearConnected =>
    refine ⟨.inl ⟨rfl, rfl⟩, fun pc' hpc' => ?_⟩
    cases hpc'
    exact hpc

/-- A caller has moved to `pc`. -/
theorem FlagInv.of_caller (h : FlagInv s) (hguard : (guard s).Inv) {i : ι} {u : Client ι}
    {pc : CallerPc} (hcallers : u.callers = s.callers)
    (hworker : u.worker = s.worker ∨ u.worker.role = .outside)
    (hflags : KeepsFlags s u (.caller i)) (hpc : pc.FlagsOk u.thread_exit_ u.is_running_)
    (hstopped : u.worker ≠ .notStarted → u.is_running_ = false →
      u.thread_exit_ = true ∨ ∃ j, (u.setCaller i pc).callers j = .start .setRunning) :
    FlagInv (u.setCaller i pc) where
  callers := by
    intro j
    show (Function.update u.callers i pc j).FlagsOk u.thread_exit_ u.is_running_
    rw [Function.update_apply]
    by_cases hj : j = i
    · rw [if_pos hj]
      exact hpc
    · rw [if_neg hj, hcallers]
      exact h.caller_of_ne hguard hflags fun heq => hj (ThreadId.caller.inj heq)
  worker := by
    show u.worker.FlagsOk u.thread_exit_ u.is_running_
    rcases hworker with heq | hout
    · rw [heq]
      exact h.worker_of_ne hguard hflags fun heq => by cases heq
    · exact WorkerPc.flagsOk_of_outside hout _ _
  stopped := hstopped

/-- A caller that is not between the two writes has moved and left the flags and the worker. -/
theorem FlagInv.of_caller_same (h : FlagInv s) (hguard : (guard s).Inv) {i : ι} {u : Client ι}
    {pc : CallerPc} (hcallers : u.callers = s.callers) (hworker : u.worker = s.worker)
    (hexit : u.thread_exit_ = s.thread_exit_) (hrunning : u.is_running_ = s.is_running_)
    (hpc : pc.FlagsOk s.thread_exit_ s.is_running_) (hi : s.callers i ≠ .start .setRunning) :
    FlagInv (u.setCaller i pc) := by
  refine h.of_caller hguard hcallers (.inl hworker) (.inl ⟨hexit, hrunning⟩) ?_ ?_
  · rw [hexit, hrunning]
    exact hpc
  · rw [hworker, hexit, hrunning]
    intro hpresent hstopped
    refine (h.stopped hpresent hstopped).imp_right fun ⟨j, hj⟩ => ⟨j, ?_⟩
    have hji : j ≠ i := by
      rintro rfl
      exact hi hj
    show Function.update u.callers i pc j = _
    rw [Function.update_of_ne hji, hcallers]
    exact hj

theorem FlagInv.callerStep {i : ι} (h : FlagInv s) (hguard : (guard s).Inv)
    (hmove : CallerMoves s i t) : FlagInv t := by
  have hi := h.callers i
  cases hmove with
  | @publish pc u next hpc hmove =>
    have hsame : u.thread_exit_ = s.thread_exit_ ∧ u.is_running_ = s.is_running_ := by
      cases hmove <;> exact ⟨rfl, rfl⟩
    refine h.of_caller_same hguard hmove.frame.2.1 hmove.frame.2.2 hsame.1 hsame.2 ?_
      (by rw [hpc]; exact fun heq => by cases heq)
    cases next <;> trivial
  | @stop pc u next hpc hmove =>
    rw [hpc] at hi
    obtain ⟨hflags, hnext⟩ := hmove.flags hi
    obtain ⟨hworker, hcallers, -⟩ := hmove.frame
    have hnextOk : (next.elim CallerPc.idle CallerPc.stop).FlagsOk u.thread_exit_
        u.is_running_ := by
      cases next with
      | none => trivial
      | some pc' => exact hnext pc' rfl
    rcases hflags with ⟨hexit, hrunning⟩ | ⟨hexit, hinside⟩
    · rw [hexit, hrunning] at hnextOk
      exact h.of_caller_same hguard hcallers hworker hexit hrunning hnextOk
        (by rw [hpc]; exact fun heq => by cases heq)
    · have hrole := inside_of_caller hpc hinside
      exact h.of_caller hguard hcallers (.inl hworker) (.inr hrole) hnextOk fun _ _ => .inl hexit
  | @start pc u next hpc hmove =>
    rw [hpc] at hi
    have hne : pc ≠ .setRunning → s.callers i ≠ .start .setRunning := by
      intro hne heq
      rw [hpc] at heq
      exact hne (CallerPc.start.inj heq)
    have hinside : pc.role ≠ .outside → role s (.caller i) ≠ .outside := inside_of_caller hpc
    cases hmove with
    | lock | isRunning | notRunning =>
      exact h.of_caller_same hguard rfl rfl rfl rfl trivial (hne fun heq => by cases heq)
    | clearAttempts | notJoinable | joinable =>
      exact h.of_caller_same hguard rfl rfl rfl rfl hi (hne fun heq => by cases heq)
    | clearExit =>
      refine h.of_caller hguard rfl (.inl rfl) (.inr (hinside fun hrole => by cases hrole))
        trivial ?_
      exact fun _ _ => .inr ⟨i, Function.update_self ..⟩
    | setRunning =>
      refine h.of_caller hguard rfl (.inl rfl) (.inr (hinside fun hrole => by cases hrole)) rfl ?_
      exact fun _ hstopped => by cases hstopped
    | join =>
      refine h.of_caller hguard rfl (.inr rfl) (.inl ⟨rfl, rfl⟩) hi ?_
      exact fun hpresent => absurd rfl hpresent
    | spawn =>
      -- the client is running when its worker is started
      refine h.of_caller hguard rfl (.inr rfl) (.inl ⟨rfl, rfl⟩) trivial fun _ hstopped => ?_
      have hrunning : s.is_running_ = true := hi
      have hstopped : s.is_running_ = false := hstopped
      rw [hrunning] at hstopped
      cases hstopped

omit [DecidableEq ι] in
theorem FlagInv.workerStep {ok : Bool} (h : FlagInv s) (hguard : (guard s).Inv)
    (hmove : WorkerMoves s ok t) : FlagInv t := by
  have hkeep : t.callers = s.callers → t.thread_exit_ = s.thread_exit_ →
      t.is_running_ = s.is_running_ → t.worker.FlagsOk t.thread_exit_ t.is_running_ →
      FlagInv t := by
    intro hcallers hexit hrunning hworker
    refine ⟨?_, hworker, ?_⟩
    · rw [hcallers, hexit, hrunning]
      exact h.callers
    · rw [hcallers, hexit, hrunning]
      exact fun _ => h.stopped hmove.present
  cases hmove with
  | @stop pc u next hpc hmove =>
    have hworker := h.worker
    rw [hpc] at hworker
    obtain ⟨hflags, hnext⟩ := hmove.flags hworker
    have hnextOk : (next.elim WorkerPc.testExit WorkerPc.stop).FlagsOk u.thread_exit_
        u.is_running_ := by
      cases next with
      | none => trivial
      | some pc' => exact hnext pc' rfl
    rcases hflags with ⟨hexit, hrunning⟩ | ⟨hexit, hinside⟩
    · exact hkeep hmove.frame.2.1 hexit hrunning hnextOk
    · have hrole := inside_of_worker hpc hinside
      refine ⟨fun j => ?_, hnextOk, fun _ _ => .inl hexit⟩
      show (u.callers j).FlagsOk _ _
      rw [hmove.frame.2.1]
      exact h.caller_of_ne (t := u) hguard (.inr hrole) fun heq => by cases heq
  | testExit | testBreak =>
    refine hkeep rfl rfl rfl ?_
    show (if s.thread_exit_ then _ else _ : WorkerPc).FlagsOk _ _
    split <;> trivial
  | _ => exact hkeep rfl rfl rfl trivial

theorem FlagInv.step {a : Action ι} (h : FlagInv s) (hguard : (guard s).Inv)
    (hstep : step config_ s a = some t) : FlagInv t := by
  cases a with
  | call i f =>
    obtain ⟨hpc, rfl⟩ := call_eq_some hstep
    refine h.of_caller_same hguard rfl rfl rfl rfl ?_ (by rw [hpc]; exact fun heq => by cases heq)
    cases f <;> trivial
  | caller i mid => exact h.callerStep hguard (moves_caller hstep)
  | worker ok => exact h.workerStep hguard (moves_worker hstep)
  | event type =>
    cases hstep
    cases type <;> exact ⟨h.callers, h.worker, h.stopped⟩

omit [DecidableEq ι] in
theorem flagInv_initial : FlagInv (initial : Client ι) where
  callers := fun _ => trivial
  worker := trivial
  stopped := fun hpresent => absurd rfl hpresent

/-- What holds in all runs. -/
theorem guard_flagInv (h : (system ι config_).Reachable s) : (guard s).Inv ∧ FlagInv s := by
  refine LTS.Reachable.invariant (I := fun s => (guard s).Inv ∧ FlagInv s) ?_ ?_ h
  · intro s hinit
    rw [show s = initial from hinit]
    exact ⟨guard_initial, flagInv_initial⟩
  · intro s a t hI hstep
    exact ⟨guard_inv_step hI.1 hstep, hI.2.step hI.1 hstep⟩

end IndustrialMqttClient
end ShipMotion
