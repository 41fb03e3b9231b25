import Mathlib.Data.Nat.Find
import PromptGraph.Run.Protocol

/-!
# Runs keep to the protocol

A step of the waiting notes its poll, and goes on exactly if nothing ends it (`run_wait_succ`). So
the waiting ends at the first poll that fails, is terminal or comes too late (`EndsAt.run_wait`).
From there on the calls and the result of a run follow (`ProtocolKept`): artifacts are collected of
a success only and stored once they are collected, and the one run that is cancelled is the one
whose time is up (`run_keeps_protocol`).
-/

namespace PromptGraph

namespace Waited

/-- The service reports a success. -/
def succeeded : Waited → Bool
  | terminal status => status.state = .succeeded
  | _ => false

/-- The time is up. -/
def timedOut : Waited → Bool
  | late => true
  | _ => false

end Waited

namespace Run

/-! ## Waiting -/

section Waiting

variable (x : Executor) (late : Nat → Bool) (handle : String)

/-- What ends the waiting at the poll with a number; none when it goes on. -/
def ending? (number : Nat) : Option Waited :=
  match x.poll handle number with
  | .error e => some (.broken e)
  | .ok status =>
    if status.state.isTerminal then some (.terminal status)
    else if late number then some .late else none

/-- The waiting ends with `w` at the poll with the number `last`, and not before. -/
structure EndsAt (last : Nat) (w : Waited) : Prop where
  goesOn : ∀ k < last, ending? x late handle k = none
  ends : ending? x late handle last = some w

/-- The calls that the end of the waiting makes. -/
def aftermath : Waited → List Call
  | .late => [.cancel handle]
  | _ => []

variable {m : Type → Type} [Monad m] [LawfulMonad m]

theorem run_calling {α : Type} (call : Call) (answer : m α) (log : List Call) :
    (calling call answer).run log = (fun a => (a, log ++ [call])) <$> answer := by
  simp [calling]

/-- One poll, and what follows from its answer. What a cancellation answers does not matter. -/
theorem run_wait_succ (fuel number : Nat) (log : List Call) :
    (wait x late handle (fuel + 1) number : StateT (List Call) m _).run log =
      match ending? x late handle number with
      | some w => pure (some w, log ++ [.poll handle] ++ aftermath handle w)
      | none => (wait x late handle fuel (number + 1)).run (log ++ [.poll handle]) := by
  rw [wait, StateT.run_bind, run_calling, map_pure, pure_bind, ending?]
  cases x.poll handle number with
  | error e => simp [aftermath]
  | ok status =>
    dsimp only
    split
    · simp [aftermath]
    · split
      · simp [run_calling, aftermath]
      · rfl

theorem wait_cancel (cancel : String → Except Failure Unit) (fuel number : Nat) :
    (wait { x with cancel } late handle fuel number : StateT (List Call) m _) =
      wait x late handle fuel number := by
  induction fuel generalizing number with
  | zero => rfl
  | succ fuel ih =>
    funext log
    refine (run_wait_succ { x with cancel } late handle fuel number log).trans ?_
    rw [ih]
    exact (run_wait_succ x late handle fuel number log).symm

/-- Polls that nothing ends are made one after the other. -/
theorem run_wait_of_goesOn {polls : Nat} (h : ∀ k < polls, ending? x late handle k = none)
    (fuel : Nat) (log : List Call) :
    (wait x late handle (polls + fuel) 0 : StateT (List Call) m _).run log =
      (wait x late handle fuel polls).run (log ++ List.replicate polls (.poll handle)) := by
  induction polls generalizing fuel with
  | zero => simp
  | succ polls ih =>
    have hlast : ending? x late handle polls = none := h polls (Nat.lt_succ_self polls)
    have hfuel : polls + 1 + fuel = polls + (fuel + 1) := by omega
    rw [hfuel, ih fun k hk => h k (by omega), run_wait_succ, hlast, List.replicate_succ',
      List.append_assoc]

theorem run_wait_of_unsettled {fuel : Nat} (h : ∀ k < fuel, ending? x late handle k = none)
    (log : List Call) : (wait x late handle fuel 0 : StateT (List Call) m _).run log =
      pure (none, log ++ List.replicate fuel (.poll handle)) :=
  run_wait_of_goesOn x late handle h 0 log

variable {x late handle} {last : Nat} {w : Waited}

theorem EndsAt.le_of_ends (h : EndsAt x late handle last w) {k : Nat} {w' : Waited}
    (hk : ending? x late handle k = some w') : last ≤ k := by
  refine Nat.le_of_not_lt fun hlt => ?_
  rw [h.goesOn k hlt] at hk
  cases hk

theorem exists_endsAt {fuel : Nat} (h : ∃ k < fuel, (ending? x late handle k).isSome = true) :
    ∃ last < fuel, ∃ w, EndsAt x late handle last w := by
  obtain ⟨hlt, hsome⟩ := Nat.find_spec h
  obtain ⟨w, hw⟩ := Option.isSome_iff_exists.1 hsome
  refine ⟨Nat.find h, hlt, w, fun k hk => ?_, hw⟩
  rw [← Option.not_isSome_iff_eq_none]
  exact fun hs => Nat.find_min h hk ⟨Nat.lt_trans hk hlt, hs⟩

theorem EndsAt.run_wait (h : EndsAt x late handle last w) {fuel : Nat} (hlt : last < fuel)
    (log : List Call) : (wait x late handle fuel 0 : StateT (List Call) m _).run log =
      pure (some w, log ++ List.replicate (last + 1) (.poll handle) ++ aftermath handle w) := by
  obtain ⟨rest, rfl⟩ := Nat.exists_eq_add_of_lt hlt
  rw [Nat.add_assoc, run_wait_of_goesOn x late handle h.goesOn, run_wait_succ, h.ends,
    List.replicate_succ', List.append_assoc log]

theorem ending?_of_error {e : Failure} {k : Nat} (h : x.poll handle k = .error e) :
    ending? x late handle k = some (.broken e) := by
  rw [ending?, h]

theorem ending?_of_terminal {status : RunStatus} {k : Nat} (h : x.poll handle k = .ok status)
    (ht : status.state.isTerminal = true) :
    ending? x late handle k = some (.terminal status) := by
  rw [ending?, h]
  exact if_pos ht

theorem EndsAt.eq_terminal (h : EndsAt x late handle last w) {k : Nat} (hk : k ≤ last)
    {status : RunStatus} (hp : x.poll handle k = .ok status)
    (ht : status.state.isTerminal = true) : w = .terminal status := by
  have hends : ending? x late handle k = some (.terminal status) := ending?_of_terminal hp ht
  have hkl : k = last := Nat.le_antisymm hk (h.le_of_ends hends)
  subst hkl
  exact Option.some.inj (h.ends.symm.trans hends)

theorem EndsAt.poll_eq {status : RunStatus} (h : EndsAt x late handle last (.terminal status)) :
    x.poll handle last = .ok status := by
  have hends := h.ends
  unfold ending? at hends
  split at hends
  · cases hends
  · next hpoll =>
    split at hends
    · cases hends
      exact hpoll
    · split at hends <;> cases hends

end Waiting

/-! ## Whole runs -/

section Protocol

variable {σ : Type} (x : Executor) (store : String → Artifacts → StateM σ (Except Failure String))

/-- How a run that was accepted under a handle keeps to the protocol, when its waiting ended with
`w` at the poll with the number `last`: its calls, its result, and what is left of the state that
artifacts are stored in. -/
structure ProtocolKept (submitted : Call) (handle : String) (last : Nat) (w : Waited) (s : σ)
    (calls : List Call) (result : Except Failure RunOutcome) (s' : σ) : Prop where
  calls_eq : calls = submitted :: List.replicate (last + 1) (.poll handle) ++
    (if w.succeeded then [.collect handle] else []) ++
    (if w.succeeded && (x.collect handle).isOk then [.store handle] else []) ++
    (if w.timedOut then [.cancel handle] else [])
  /-- A run succeeds exactly if everything did that it asked for. -/
  succeeds : ∀ outcome, result = .ok outcome ↔ outcome.handle = handle ∧
    x.poll handle last = .ok outcome.status ∧ outcome.status.state = .succeeded ∧
    x.collect handle = .ok outcome.artifacts ∧
    (store handle outcome.artifacts).run s = (.ok outcome.manifest, s')
  broken : ∀ e, x.poll handle last = .error e → result = .error e
  ended : ∀ status, x.poll handle last = .ok status → status.state.isTerminal = true →
    status.state ≠ .succeeded → result = .error (.ended handle status.state.name status.message)
  late : w.timedOut = true → result = .error (.timedOut handle)
  uncollected : w.succeeded = true → ∀ e, x.collect handle = .error e → result = .error e
  unstored : w.succeeded = true → ∀ artifacts, x.collect handle = .ok artifacts →
    ∀ e, ((store handle artifacts).run s).1 = .error e → result = .error e
  /-- A run that is over was not too late, whatever the clock says. -/
  inTime : ∀ k ≤ last, ∀ status, x.poll handle k = .ok status → status.state.isTerminal = true →
    w.timedOut = false ∧ (result = .error (.timedOut handle) →
      x.collect handle = .error (.timedOut handle) ∨
        ∃ artifacts, x.collect handle = .ok artifacts ∧
          ((store handle artifacts).run s).1 = .error (.timedOut handle))
  untouched : Call.store handle ∉ calls → s' = s

theorem isTerminal_of_succeeded {state : RunState} (h : state = .succeeded) :
    state.isTerminal = true := by
  rw [h]
  rfl

theorem aftermath_eq (handle : String) (w : Waited) :
    aftermath handle w = if w.timedOut then [.cancel handle] else [] := by
  cases w <;> rfl

theorem settle_eq_ok {handle : String} {w : Waited} {status : RunStatus}
    (h : settle handle w = .ok status) : w = .terminal status ∧ status.state = .succeeded := by
  cases w with
  | terminal other =>
    rw [settle] at h
    split at h
    · next hs =>
      cases h
      exact ⟨rfl, hs⟩
    · cases h
  | late => cases h
  | broken e => cases h

theorem settle_eq_error {handle : String} {w : Waited} {e : Failure}
    (h : settle handle w = .error e) : w.succeeded = false := by
  cases w with
  | terminal status =>
    rw [settle] at h
    split at h
    · cases h
    · next hs => exact decide_eq_false hs
  | late => rfl
  | broken e => rfl

variable {x store} {late : Nat → Bool} {submitted : Call} {handle : String} {last : Nat}
  {w : Waited} {s : σ}

theorem EndsAt.kept_of_error (h : EndsAt x late handle last w) {e : Failure}
    (he : settle handle w = .error e) : ProtocolKept x store submitted handle last w s
      (submitted :: List.replicate (last + 1) (.poll handle) ++ aftermath handle w)
      (.error e) s where
  calls_eq := by
    rw [settle_eq_error he, aftermath_eq]
    simp
  succeeds outcome := by
    constructor
    · intro hr
      cases hr
    · rintro ⟨-, hp, hs, -⟩
      have hw := h.eq_terminal (Nat.le_refl last) hp (isTerminal_of_succeeded hs)
      rw [hw, settle, if_pos hs] at he
      cases he
  broken e' hp := by
    have hw := h.ends.symm.trans (ending?_of_error hp)
    cases hw
    cases he
    rfl
  ended status hp ht hs := by
    rw [h.eq_terminal (Nat.le_refl last) hp ht, settle, if_neg hs] at he
    cases he
    rfl
  late hw := by
    cases w with
    | late =>
      cases he
      rfl
    | terminal status => cases hw
    | broken e' => cases hw
  uncollected hw := by
    rw [settle_eq_error he] at hw
    cases hw
  unstored hw := by
    rw [settle_eq_error he] at hw
    cases hw
  inTime k hk status hp ht := by
    have hw := h.eq_terminal hk hp ht
    subst hw
    refine ⟨rfl, fun hlate => ?_⟩
    rw [settle] at he
    split at he
    · cases he
    · cases he
      cases hlate
  untouched _ := rfl

variable {status : RunStatus}

theorem EndsAt.kept_of_uncollected (h : EndsAt x late handle last (.terminal status))
    (hs : status.state = .succeeded) {e : Failure} (hc : x.collect handle = .error e) :
    ProtocolKept x store submitted handle last (.terminal status) s
      (submitted :: List.replicate (last + 1) (.poll handle) ++
        aftermath handle (.terminal status) ++ [.collect handle]) (.error e) s where
  calls_eq := by
    simp [aftermath, Waited.succeeded, Waited.timedOut, hs, hc, Except.isOk, Except.toBool]
  succeeds outcome := by
    constructor
    · intro hr
      cases hr
    · rintro ⟨-, -, -, hok, -⟩
      rw [hc] at hok
      cases hok
  broken e' hp := by
    rw [h.poll_eq] at hp
    cases hp
  ended status' hp _ hne := by
    rw [h.poll_eq] at hp
    cases hp
    exact absurd hs hne
  late hw := by cases hw
  uncollected _ e' he := by
    rw [hc] at he
    cases he
    rfl
  unstored _ artifacts ha := by
    rw [hc] at ha
    cases ha
  inTime _ _ _ _ _ := by
    refine ⟨rfl, fun he => .inl ?_⟩
    cases he
    exact hc
  untouched _ := rfl

theorem EndsAt.kept_of_collected (h : EndsAt x late handle last (.terminal status))
    (hs : status.state = .succeeded) {artifacts : Artifacts} (hc : x.collect handle = .ok artifacts)
    {stored : Except Failure String} {s' : σ}
    (hst : (store handle artifacts).run s = (stored, s')) :
    ProtocolKept x store submitted handle last (.terminal status) s
      (submitted :: List.replicate (last + 1) (.poll handle) ++
        aftermath handle (.terminal status) ++ [.collect handle] ++ [.store handle])
      (stored.map fun manifest => { handle, status, artifacts, manifest }) s' where
  calls_eq := by
    simp [aftermath, Waited.succeeded, Waited.timedOut, hs, hc, Except.isOk, Except.toBool]
  succeeds outcome := by
    rw [h.poll_eq, hc]
    constructor
    · intro hr
      cases stored with
      | error e => cases hr
      | ok manifest =>
        cases hr
        exact ⟨rfl, rfl, hs, rfl, hst⟩
    · rintro ⟨rfl, hp, -, ha, hm⟩
      cases hp
      cases ha
      rw [hst] at hm
      cases hm
      rfl
  broken e' hp := by
    rw [h.poll_eq] at hp
    cases hp
  ended status' hp _ hne := by
    rw [h.poll_eq] at hp
    cases hp
    exact absurd hs hne
  late hw := by cases hw
  uncollected _ e he := by
    rw [hc] at he
    cases he
  unstored _ artifacts' ha e he := by
    rw [hc] at ha
    cases ha
    rw [hst] at he
    cases he
    rfl
  inTime _ _ _ _ _ := by
    refine ⟨rfl, fun he => .inr ⟨artifacts, hc, ?_⟩⟩
    rw [hst]
    cases stored with
    | error e =>
      cases he
      rfl
    | ok manifest => cases he
  untouched hno := absurd (by simp) hno

/-! ## From the calls of a run to its protocol -/

variable {log : List Call} {e : Failure}

theorem run_finish_of_uncollected (hc : x.collect handle = .error e) :
    (finish x store handle status).run log = pure (.error e, log ++ [.collect handle]) := by
  rw [finish, StateT.run_bind, run_calling, hc, map_pure, pure_bind]
  rfl

theorem run_finish_of_collected {artifacts : Artifacts} (hc : x.collect handle = .ok artifacts)
    {stored : Except Failure String} {s' : σ}
    (hst : (store handle artifacts).run s = (stored, s')) :
    ((finish x store handle status).run log).run s =
      ((stored.map fun manifest => { handle, status, artifacts, manifest },
        log ++ [.collect handle] ++ [.store handle]), s') := by
  rw [finish, StateT.run_bind, run_calling, hc, map_pure, pure_bind]
  dsimp only
  rw [StateT.run_bind, run_calling, StateT.run_bind, StateT.run_map, hst]
  cases stored <;> rfl

variable {elapsed : Nat → Duration} {fuel : Nat} {p : Prompt} {c : ExecutionContext}

theorem run_of_refused (h : x.submit p c = .error e) :
    (run x store elapsed fuel p c).run s = (some ([.submit p.ids c.mode], .error e), s) := by
  unfold run steps
  rw [h]
  rfl

theorem run_of_unsettled (h : x.submit p c = .ok handle)
    (hgoes : ∀ k < fuel, ending? x (isLate c elapsed) handle k = none) :
    run x store elapsed fuel p c = pure none := by
  unfold run steps
  rw [StateT.run_bind, run_calling, h, map_pure, pure_bind]
  dsimp only
  rw [StateT.run_bind, run_wait_of_unsettled _ _ _ hgoes, pure_bind]
  rfl

/-- Once the waiting has ended, the result comes from its end. -/
theorem EndsAt.run_eq (h : EndsAt x (isLate c elapsed) handle last w)
    (hsub : x.submit p c = .ok handle) (hlt : last < fuel) :
    run x store elapsed fuel p c = (fun r => some (r.2, r.1)) <$> (conclude x store handle w).run
      (.submit p.ids c.mode :: List.replicate (last + 1) (.poll handle) ++ aftermath handle w) := by
  unfold run steps
  rw [StateT.run_bind, run_calling, hsub, map_pure, pure_bind]
  dsimp only
  rw [StateT.run_bind, h.run_wait hlt, pure_bind]
  simp

variable (store s) in
/-- A run whose waiting ends keeps to the protocol. -/
theorem EndsAt.run_kept (h : EndsAt x (isLate c elapsed) handle last w)
    (hsub : x.submit p c = .ok handle) (hlt : last < fuel) : ∃ calls result s',
      (run x store elapsed fuel p c).run s = (some (calls, result), s') ∧
        ProtocolKept x store (.submit p.ids c.mode) handle last w s calls result s' := by
  rw [h.run_eq hsub hlt]
  unfold conclude
  cases he : settle handle w with
  | error e => exact ⟨_, _, s, rfl, h.kept_of_error he⟩
  | ok status =>
    obtain ⟨rfl, hs⟩ := settle_eq_ok he
    cases hc : x.collect handle with
    | error e =>
      refine ⟨_, _, s, ?_, h.kept_of_uncollected hs hc⟩
      dsimp only
      rw [run_finish_of_uncollected hc]
      rfl
    | ok artifacts =>
      cases hst : (store handle artifacts).run s with
      | mk stored s' =>
        refine ⟨_, _, s', ?_, h.kept_of_collected hs hc hst⟩
        dsimp only
        rw [StateT.run_map, run_finish_of_collected hc hst]
        rfl

theorem isSome_run_iff (h : x.submit p c = .ok handle) :
    ((run x store elapsed fuel p c).run s).1.isSome = true ↔
      ∃ k < fuel, (ending? x (isLate c elapsed) handle k).isSome = true := by
  constructor
  · intro hsome
    by_contra hgoes
    rw [run_of_unsettled h fun k hk => ?_] at hsome
    · cases hsome
    · rw [← Option.not_isSome_iff_eq_none]
      exact fun hs => hgoes ⟨k, hk, hs⟩
  · intro hends
    obtain ⟨last, hlt, w, hend⟩ := exists_endsAt hends
    obtain ⟨calls, result, s', hrun, -⟩ := hend.run_kept store s h hlt
    rw [hrun]
    rfl

variable (x store)

/-- **The run protocol.** A run returns if it is refused or some poll ends the waiting; a refused
run makes no further call, and one that was accepted keeps to the protocol from its first poll that
ends the waiting. What a cancellation answers does not matter. -/
theorem run_keeps_protocol (elapsed : Nat → Duration) (fuel : Nat) (p : Prompt)
    (c : ExecutionContext) (s : σ) :
    (((run x store elapsed fuel p c).run s).1.isSome = true ↔ (∃ e, x.submit p c = .error e) ∨
      ∃ handle, x.submit p c = .ok handle ∧
        ∃ k < fuel, (ending? x (isLate c elapsed) handle k).isSome = true) ∧
    (∀ calls result s', (run x store elapsed fuel p c).run s = (some (calls, result), s') →
      (∃ e, x.submit p c = .error e ∧ calls = [.submit p.ids c.mode] ∧ result = .error e ∧ s' = s) ∨
      ∃ handle last w, x.submit p c = .ok handle ∧ EndsAt x (isLate c elapsed) handle last w ∧
        ProtocolKept x store (.submit p.ids c.mode) handle last w s calls result s') ∧
    ∀ cancel, run { x with cancel } store elapsed fuel p c = run x store elapsed fuel p c := by
  refine ⟨?_, ?_, fun cancel => ?_⟩
  · cases hsub : x.submit p c with
    | error e => simp [run_of_refused hsub]
    | ok handle => simp [isSome_run_iff hsub]
  · intro calls result s' hrun
    cases hsub : x.submit p c with
    | error e =>
      rw [run_of_refused hsub] at hrun
      cases hrun
      exact .inl ⟨e, rfl, rfl, rfl, rfl⟩
    | ok handle =>
      right
      have hends : ∃ k < fuel, (ending? x (isLate c elapsed) handle k).isSome = true := by
        rw [← isSome_run_iff hsub, hrun]
        rfl
      obtain ⟨last, hlt, w, hend⟩ := exists_endsAt hends
      obtain ⟨calls', result', s'', hrun', hkept⟩ := hend.run_kept store s hsub hlt
      rw [hrun] at hrun'
      cases hrun'
      exact ⟨handle, last, w, rfl, hend, hkept⟩
  · unfold run steps
    simp only [wait_cancel]
    rfl

/-- A success that is polled when the time is up. -/
theorem run_keeps_protocol_of_late_success :
    let x : Executor := {
      submit := fun _ _ => .ok "run-1"
      poll := fun _ k => .ok { state := if k = 0 then .running else .succeeded }
      collect := fun _ => .ok (.ofList [("images", .text "shot.png")])
      cancel := fun _ => .error .unreachable }
    let store : String → Artifacts → StateM (List String) (Except Failure String) :=
      fun handle _ => do
        modify (· ++ [handle])
        return .ok (handle ++ ".json")
    let elapsed : Nat → Duration := fun k => .ofSeconds k
    let c : ExecutionContext := { timeout := some (.ofSeconds 1) }
    let calls : List Call := [.submit [] .onSite, .poll "run-1", .poll "run-1", .collect "run-1",
      .store "run-1"]
    let result : Except Failure RunOutcome := .ok {
      handle := "run-1", status := { state := .succeeded },
      artifacts := .ofList [("images", .text "shot.png")], manifest := "run-1.json" }
    isLate c elapsed 1 = true ∧
      (run x store elapsed 5 {} c).run [] = (some (calls, result), ["run-1"]) ∧
      ∃ handle last w, EndsAt x (isLate c elapsed) handle last w ∧
        ProtocolKept x store (.submit [] .onSite) handle last w [] calls result ["run-1"] := by
  intro x store elapsed c calls result
  have hrun : (run x store elapsed 5 {} c).run [] = (some (calls, result), ["run-1"]) := rfl
  refine ⟨rfl, hrun, ?_⟩
  rcases (run_keeps_protocol x store elapsed 5 {} c []).2.1 calls result _ hrun with
    ⟨e, hrefused, -⟩ | ⟨handle, last, w, -, hend, hkept⟩
  · cases hrefused
  · exact ⟨handle, last, w, hend, hkept⟩

end Protocol

end Run

end PromptGraph
