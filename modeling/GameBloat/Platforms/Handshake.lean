import GameBloat.Library.System

/-!
# The startup handshake

The game thread of the server waits for a client before it enters its loop.  It waits once,
without looking whether a client has connected already, and a signal wakes only a thread that is
waiting.  `handshake` interleaves `InitGameboyLoop` with `OnOpen` and `OnClose`; `clientHeard_iff`
says that the client is heard exactly if it does not connect too soon.

`RunGameboyLoop` is where the game thread ends up; what it does there is the subject of
`GameBloat.Platforms.ServerLoop`.

A step is one operation on something shared: taking or releasing the mutex, a store to the flag or
to the pointer to the client, a signal, or one half of `pthread_cond_wait`.  Releasing the mutex
and beginning to wait is one step, as POSIX has it, so no signal can get lost in between; and
waking up takes the mutex again, which may have to wait for the other thread.  A step of a thread
that is blocked changes nothing, so a run is any list of steps, and nothing is assumed about
fairness.  Wake-ups without a signal are left out.

The signal is lost if it comes while the game thread is still before its wait, and this is the
only way for it to miss the client.  The property is an implication between what the two threads
have done (`ClientHeard`); as an invariant it needs that the flag is set while a client is
connected (`FlagSet`).  One step keeps it exactly if it signals in time (`pastWait_step_iff`), and
`clientHeard_iff` has this for all states of a run.

A client that is missed is missed for good, as long as it stays (`waits_while_opened`): the game
thread waits, and nothing but another connection would signal again.
-/

set_option autoImplicit false

namespace GameBloat

/-- What `InitGameboyLoop` does next. -/
inductive GamePoint
  | lock
  /-- `pthread_cond_wait` is about to be called. -/
  | wait
  /-- It has released the mutex, and blocks. -/
  | waiting
  /-- It has been woken, and takes the mutex again. -/
  | relock
  | unlock | running
  deriving DecidableEq

/-- What the websocket thread does next: it waits for a client, goes through `OnOpen`, and has
finished it. -/
inductive OpenPoint
  | idle | lock | unlock | store | setClient | signal | opened
  deriving DecidableEq

/-- Who holds the mutex. -/
inductive Holder
  | game | websocket
  deriving DecidableEq

/-- What the threads share, and where they are. -/
structure HandshakeState where
  connMutex : Option Holder
  wsConnected : Bool
  game : GamePoint
  websocket : OpenPoint

/-- The next step of `InitGameboyLoop`, if it is not blocked: a thread that wants the mutex while
the other one has it stays where it is.  While it waits it does not have the mutex, and it is the
signal that wakes it. -/
def initGameboyLoop (s : HandshakeState) : HandshakeState :=
  match s.game with
  | .lock => if s.connMutex = none then { s with connMutex := some .game, game := .wait } else s
  | .wait => { s with connMutex := none, game := .waiting }
  | .waiting => s
  | .relock => if s.connMutex = none then { s with connMutex := some .game, game := .unlock } else s
  | .unlock => { s with connMutex := none, game := .running }
  | .running => s

/-- The next step of `OnOpen`, if it is not blocked.  When there is none under way, a client
connects. -/
def onOpen (s : HandshakeState) : HandshakeState :=
  match s.websocket with
  | .idle => { s with websocket := .lock }
  | .lock =>
    if s.connMutex = none then { s with connMutex := some .websocket, websocket := .unlock } else s
  | .unlock => { s with connMutex := none, websocket := .store }
  | .store => { s with wsConnected := true, websocket := .setClient }
  | .setClient => { s with websocket := .signal }
  -- a signal that finds nobody waiting is lost
  | .signal =>
    { s with game := if s.game = .waiting then .relock else s.game, websocket := .opened }
  | .opened => s

/-- `OnClose`, once `OnOpen` has finished. -/
def onClose (s : HandshakeState) : HandshakeState :=
  if s.websocket = .opened then { s with wsConnected := false, websocket := .idle } else s

/-- A step of one of the threads. -/
inductive HandshakeStep
  | game | websocket | close
  deriving DecidableEq

/-- The threads, in any order. -/
def handshake : System HandshakeState HandshakeStep Empty where
  step s
    | .game => initGameboyLoop s
    | .websocket => onOpen s
    | .close => onClose s
  out _ _ := []

/-- Both threads have been created, and none has taken a step. -/
def HandshakeState.start : HandshakeState := ⟨none, false, .lock, .idle⟩

/-- The game thread is not blocked, nor about to block.  As `OnOpen` has finished, no signal is on
the way that would wake it. -/
def PastWait (s : HandshakeState) : Prop := s.game ∈ [.relock, .unlock, .running]

instance (s : HandshakeState) : Decidable (PastWait s) := inferInstanceAs (Decidable (_ ∈ _))

/-- If `OnOpen` has finished and the client is still connected, the game thread knows. -/
def ClientHeard (s : HandshakeState) : Prop :=
  s.websocket = .opened → s.wsConnected = true → PastWait s

/-- The step is no signal, or it finds the game thread waiting or past that. -/
def SignalsInTime (s : HandshakeState) (e : HandshakeStep) : Prop :=
  e = .websocket → s.websocket = .signal → s.game ≠ .lock ∧ s.game ≠ .wait

/-- From the store to the end of `OnOpen`, and as long as the client stays, the flag is set. -/
def FlagSet (s : HandshakeState) : Prop :=
  s.websocket ∈ [.setClient, .signal, .opened] → s.wsConnected = true

/-- Only `OnClose` clears the flag, and it ends the connection. -/
theorem FlagSet.step {s : HandshakeState} (h : FlagSet s) (e : HandshakeStep) :
    FlagSet (handshake.step s e) := by
  obtain ⟨mutex, connected, game, websocket⟩ := s
  cases e with
  | game =>
    show FlagSet (initGameboyLoop _)
    cases game <;> simp only [initGameboyLoop] <;> first | exact h | (split <;> exact h)
  | websocket =>
    show FlagSet (onOpen _)
    cases websocket with
    | lock =>
      simp only [onOpen]
      split <;> simp [FlagSet]
    | idle | unlock => simp [FlagSet, onOpen]
    | store => exact fun _ ↦ rfl
    | setClient | signal => exact fun _ ↦ h (by simp)
    | opened => exact h
  | close =>
    show FlagSet (onClose _)
    rw [onClose]
    split
    · simp [FlagSet]
    · exact h

/-- The flag is set in all states of every run. -/
theorem run_flagSet (run : List HandshakeStep) : FlagSet (handshake.run .start run) :=
  System.run_invariant (I := FlagSet) (fun _ e _ h ↦ h.step e) (fun h ↦ absurd h (by decide))
    (fun _ _ ↦ trivial : ∀ e ∈ run, True)

/-- A step keeps the game thread past its wait where it has to be, exactly if it signals in time. -/
theorem pastWait_step_iff (s : HandshakeState) (e : HandshakeStep)
    (h : s.websocket = .opened → PastWait s) :
    ((handshake.step s e).websocket = .opened → PastWait (handshake.step s e)) ↔
      SignalsInTime s e := by
  obtain ⟨mutex, connected, game, websocket⟩ := s
  cases e with
  | game =>
    refine iff_of_true ?_ fun he ↦ by cases he
    show (initGameboyLoop _).websocket = .opened → PastWait (initGameboyLoop _)
    cases game with
    | lock | wait | waiting =>
      intro hopened
      have hpast : PastWait ⟨mutex, connected, _, websocket⟩ := h <| by
        simp only [initGameboyLoop] at hopened
        first | exact hopened | (split at hopened <;> exact hopened)
      exact absurd hpast (by simp [PastWait])
    | relock =>
      simp only [initGameboyLoop]
      split <;> exact fun _ ↦ by simp [PastWait]
    | unlock | running => exact fun _ ↦ by simp [PastWait, initGameboyLoop]
  | close =>
    refine iff_of_true (fun hopened ↦ ?_) fun he ↦ by cases he
    replace hopened : (onClose _).websocket = .opened := hopened
    rw [onClose] at hopened
    split at hopened
    · cases hopened
    · exact absurd hopened ‹_›
  | websocket =>
    show ((onOpen _).websocket = .opened → PastWait (onOpen _)) ↔ _
    cases websocket with
    | signal => cases game <;> simp [onOpen, SignalsInTime, PastWait]
    | opened => exact iff_of_true h fun _ hsignal ↦ by cases hsignal
    | lock =>
      refine iff_of_true (fun hopened ↦ ?_) fun _ hsignal ↦ by cases hsignal
      simp only [onOpen] at hopened
      split at hopened <;> cases hopened
    | idle | unlock | store | setClient =>
      exact iff_of_true (fun hopened ↦ by cases hopened) fun _ hsignal ↦ by cases hsignal

/-- **When the client is heard.**  In every state of a run in which `OnOpen` has finished and the
client is still connected, the game thread has left its wait behind, if and only if every signal of
the run found it waiting or later. -/
theorem clientHeard_iff (run : List HandshakeStep) :
    (∀ pre, pre <+: run → ClientHeard (handshake.run .start pre)) ↔
      handshake.Along SignalsInTime .start run := by
  have hheard (s : HandshakeState) (hs : FlagSet s) :
      ClientHeard s ↔ (s.websocket = .opened → PastWait s) :=
    forall_congr' fun hopened ↦ forall_prop_of_true (hs (by simp [hopened]))
  rw [← System.forall_prefix_iff_along pastWait_step_iff (fun h ↦ by cases h)]
  exact forall_congr' fun pre ↦ forall_congr' fun _ ↦ hheard _ (run_flagSet pre)

/-- A game thread that has missed its signal waits for as long as the client stays. -/
theorem waits_while_opened {s : HandshakeState} (hopened : s.websocket = .opened)
    (hwaiting : s.game = .waiting) {run : List HandshakeStep} (hrun : .close ∉ run) :
    handshake.run s run = s := by
  refine System.run_invariant (I := fun s' ↦ s' = s) (fun s' e he hs ↦ ?_) rfl
    (fun e he heq ↦ hrun (heq ▸ he) : ∀ e ∈ run, e ≠ .close)
  subst hs
  cases e with
  | game =>
    show initGameboyLoop s' = s'
    rw [initGameboyLoop, hwaiting]
  | websocket =>
    show onOpen s' = s'
    rw [onOpen, hopened]
  | close => exact absurd rfl he

/-- The client connects before the game thread has taken a step, and is never heard. -/
theorem early_client_not_heard :
    let s := handshake.run .start (List.replicate 6 .websocket ++ List.replicate 2 .game)
    ¬ClientHeard s ∧ s.websocket = .opened ∧ s.wsConnected = true ∧ s.game = .waiting := by
  unfold ClientHeard
  decide

end GameBloat
