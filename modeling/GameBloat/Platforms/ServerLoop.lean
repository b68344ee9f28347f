import GameBloat.Library.Requests
import GameBloat.Platforms.Leftovers

/-!
# The client's commands

The server runs two threads.  The websocket thread takes messages from the client and sets flags;
`RunGameboyLoop` looks at the flags, acts, and clears them.  `serverLoop` interleaves the two, one
atomic load, store, begin or end of a call at a time.

As the loop clears a flag only when the call is over, a command that comes during the call is
cleared along with the one that is being served.  `commands_kept_iff` says when commands must not
come, and that otherwise none is lost.

That a command is not lost is said of what can be seen from outside, the history of messages,
begins of calls and stores to the flags: whenever the loop clears a flag, an answer to the last
message of that kind has begun since it was delivered (`Settled`, from the library on requests).
For 'step' the answer is a cycle and for 'reset' a reset.  A 'start' is different, as it asks for
a state and not for an action; it is lost if the flag is cleared although nothing that was
delivered later, a 'stop' or a 'reset', says that the game should stop.

For each command there is a `Window`: the states in which the loop has the answer behind it and
the clearing of the flag ahead of it.  A message that comes in the window is lost when the loop,
going on by itself, gets to the mark, and one that comes outside is not.  Both are proved once for
any window, from conditions on single steps:

* it is entered only by an answer (`loop`, `message`), and left only by the mark (`down`);
* the message itself makes no difference to it (`ask`), and neither does the connection;
* inside it the loop gets nearer to the mark with each step, by a measure (`LoopPoint.distance`).

For 'start' the window begins when a 'reset' is delivered, long before the loop looks at it.

`commands_kept_iff` is exact in this sense: nothing is lost in the run, nor would be if after any
part of it the loop went on by itself, if and only if no message comes in its window.

The machine of the run is one on which games have been played (`serverLoop_played`), so that what is
left over by an earlier game is there at a reset that the client asks for.
-/

set_option autoImplicit false

namespace GameBloat

/-! ## The two threads -/

/-- What `RunGameboyLoop` does next. -/
inductive LoopPoint
  -- `if (atomic_load(&restartGame) == true)`
  | ifRestart
  | callReset | inReset | sendData | clearRestart | clearStart
  -- `if (atomic_load(&wsConnected) == true && atomic_load(&step) == true)`
  | ifConnected | ifStep
  | callCycle | inCycle | clearStep
  -- `else if (atomic_load(&wsConnected) == true && atomic_load(&startGame) == true)`
  | elseIfConnected | elseIfStart
  | callGameCycle | inGameCycle | sleep
  deriving DecidableEq

/-- The flags that the threads share, the machine and where the loop is. -/
structure ServerState where
  machine : Machine
  wsConnected : Bool
  restartGame : Bool
  startGame : Bool
  step : Bool
  point : LoopPoint

/-- What can be seen of the threads. -/
inductive ServerAction
  | delivers (msg : String)
  | beginsReset
  | beginsCycle
  | clearsRestart
  | clearsStart
  | clearsStep
  deriving DecidableEq

/-- `OnMessage`. -/
def onMessage (s : ServerState) (msg : String) : ServerState :=
  if msg = "reset" then { s with restartGame := true }
  else if msg = "step" then { s with step := true }
  else if msg = "start" then { s with startGame := true }
  else if msg = "stop" then { s with startGame := false }
  else s

/-- The next step of `RunGameboyLoop`, at a time on the clock on the wall.  The calls do their work
when they end. -/
def runGameboyLoop (gameFileName : Option (List Byte)) (s : ServerState) (time : ℤ) :
    ServerState :=
  match s.point with
  | .ifRestart => { s with point := if s.restartGame then .callReset else .ifConnected }
  | .callReset => { s with point := .inReset }
  | .inReset =>
    { s with machine := MainServer.resetGame s.machine gameFileName, point := .sendData }
  | .sendData => { s with point := .clearRestart }
  | .clearRestart => { s with restartGame := false, point := .clearStart }
  | .clearStart => { s with startGame := false, point := .ifConnected }
  | .ifConnected => { s with point := if s.wsConnected then .ifStep else .elseIfConnected }
  | .ifStep => { s with point := if s.step then .callCycle else .elseIfConnected }
  | .callCycle => { s with point := .inCycle }
  | .inCycle => { s with machine := mainLoop.step s.machine time, point := .clearStep }
  | .clearStep => { s with step := false, point := .ifRestart }
  | .elseIfConnected => { s with point := if s.wsConnected then .elseIfStart else .ifRestart }
  | .elseIfStart => { s with point := if s.startGame then .callGameCycle else .ifRestart }
  | .callGameCycle => { s with point := .inGameCycle }
  | .inGameCycle => { s with machine := mainLoop.step s.machine time, point := .sleep }
  | .sleep => { s with point := .ifRestart }

/-- What can be seen of a step of the loop. -/
def LoopPoint.action : LoopPoint → Option ServerAction
  | callReset => some .beginsReset
  | callCycle | callGameCycle => some .beginsCycle
  | clearRestart => some .clearsRestart
  | clearStart => some .clearsStart
  | clearStep => some .clearsStep
  | _ => none

/-- A step of one of the threads. -/
inductive ThreadStep
  | message (msg : String)
  /-- The store in `OnOpen` or `OnClose`. -/
  | connection (isOpen : Bool)
  | loop (time : ℤ)

/-- The two threads, in any order. -/
def serverLoop (gameFileName : Option (List Byte)) :
    System ServerState ThreadStep ServerAction where
  step s
    | .message msg => onMessage s msg
    | .connection isOpen => { s with wsConnected := isOpen }
    | .loop time => runGameboyLoop gameFileName s time
  out s
    | .message msg => [.delivers msg]
    | .connection _ => []
    | .loop _ => s.point.action.toList

/-- The loop about to begin, with the flags as `InitGlobals` leaves them. -/
def ServerState.start (machine : Machine) (wsConnected : Bool) : ServerState :=
  { machine, wsConnected, restartGame := false, startGame := false, step := false,
    point := .ifRestart }

/-! ## Commands -/

/-- No command is lost.  When the loop clears the step flag, a cycle has begun since the last
'step'; when it clears the restart flag, a reset has begun since the last 'reset'; and when it
clears the start flag, there is no 'start' later than the last 'reset' and the last 'stop'. -/
structure NothingLost (h : List ServerAction) : Prop where
  step : Settled (.delivers "step") [.beginsCycle] .clearsStep h
  reset : Settled (.delivers "reset") [.beginsReset] .clearsRestart h
  start : Settled (.delivers "start") [.delivers "stop", .delivers "reset"] .clearsStart h

/-- The loop has begun a cycle for a 'step' and is yet to clear the flag. -/
def ServerState.Stepping (s : ServerState) : Prop := s.point ∈ [.inCycle, .clearStep]

/-- The loop has begun a reset and is yet to clear the flag. -/
def ServerState.Resetting (s : ServerState) : Prop := s.point ∈ [.inReset, .sendData, .clearRestart]

/-- A reset is asked for or under way, and the start flag is yet to be cleared. -/
def ServerState.Restarting (s : ServerState) : Prop :=
  s.restartGame ∨ s.point ∈ [.callReset, .inReset, .sendData, .clearRestart, .clearStart]

/-- The messages that are not lost. -/
def Safe (s : ServerState) : ThreadStep → Prop
  | .message msg => (msg = "step" → ¬s.Stepping) ∧ (msg = "reset" → ¬s.Resetting) ∧
      (msg = "start" → ¬s.Restarting)
  | .connection _ | .loop _ => True

variable {gameFileName : Option (List Byte)} {s : ServerState} {msg : String}

/-- A step shows at most one thing. -/
theorem serverLoop_out (s : ServerState) (e : ThreadStep) :
    (serverLoop gameFileName).out s e = [] ∨ ∃ x, (serverLoop gameFileName).out s e = [x] := by
  cases e with
  | message msg => exact .inr ⟨_, rfl⟩
  | connection => exact .inl rfl
  | loop time =>
    show s.point.action.toList = [] ∨ ∃ x, s.point.action.toList = [x]
    cases s.point.action with
    | none => exact .inl rfl
    | some x => exact .inr ⟨x, rfl⟩

/-- What is delivered is a message of this text. -/
theorem delivers_mem_out {e : ThreadStep}
    (h : .delivers msg ∈ (serverLoop gameFileName).out s e) : e = .message msg := by
  cases e with
  | message msg' =>
    obtain rfl := ServerAction.delivers.inj (List.mem_singleton.1 h)
    rfl
  | connection => cases h
  | loop time =>
    have haction : s.point.action = some (.delivers msg) := Option.mem_toList.1 h
    cases hpoint : s.point <;> rw [hpoint] at haction <;> cases haction

/-- What is not delivered is done by the loop. -/
theorem mem_out_iff {e : ThreadStep} {x : ServerAction} (hx : ∀ msg, x ≠ .delivers msg) :
    x ∈ (serverLoop gameFileName).out s e ↔ (∃ time, e = .loop time) ∧ s.point.action = some x := by
  cases e with
  | message msg => simp [serverLoop, hx msg]
  | connection => simp [serverLoop]
  | loop time => simp [serverLoop]

/-- Whatever the interleaving, the machine is one on which games have been played. -/
theorem serverLoop_played (wsConnected : Bool) (events : List ThreadStep) :
    Played ((serverLoop gameFileName).run
      (ServerState.start Machine.powerOn wsConnected) events).machine := by
  refine System.run_invariant (I := fun s : ServerState ↦ Played s.machine) ?_ Played.powerOn
    (fun _ _ ↦ trivial : ∀ e ∈ events, True)
  intro s e _ hs
  cases e with
  | message msg =>
    have hsame : (onMessage s msg).machine = s.machine := by
      rw [onMessage]
      split_ifs <;> rfl
    exact hsame ▸ hs
  | connection => exact hs
  | loop time =>
    show Played (runGameboyLoop gameFileName s time).machine
    rw [runGameboyLoop]
    cases s.point with
    | inReset => exact hs.resetGame gameFileName
    | inCycle | inGameCycle => exact hs.run [time]
    | _ => exact hs

/-! ### Windows -/

/-- How many steps the loop is at most away from clearing the start flag, once it is going to.
The calls end, since a cycle and a reset do.  It is the measure by which a message is seen to be
taken notice of after all. -/
def LoopPoint.distance : LoopPoint → ℕ
  | clearStart => 1
  | clearRestart => 2
  | sendData => 3
  | inReset => 4
  | callReset => 5
  | ifRestart => 6
  | clearStep | sleep => 7
  | inCycle | inGameCycle => 8
  | callCycle | callGameCycle => 9
  | elseIfStart => 10
  | elseIfConnected => 11
  | ifStep => 12
  | ifConnected => 13

/-- The states `W` in which the loop has the answers to a message behind it and is on its way to
`mark`. -/
structure Window (gameFileName : Option (List Byte)) (msg : String) (answers : List ServerAction)
    (mark : ServerAction) (W : ServerState → Prop) : Prop where
  mark_ne : ∀ msg', mark ≠ .delivers msg'
  ask : ∀ s, W (onMessage s msg) ↔ W s
  message : ∀ s msg', W (onMessage s msg') → W s ∨ .delivers msg' ∈ answers
  connection : ∀ (s : ServerState) isOpen, W { s with wsConnected := isOpen } → W s
  loop : ∀ s time, W (runGameboyLoop gameFileName s time) →
    W s ∨ ∃ x, s.point.action = some x ∧ x ∈ answers
  mark_inside : ∀ s, s.point.action = some mark → W s
  down : ∀ s time, W s → s.point.action = some mark ∨
    W (runGameboyLoop gameFileName s time) ∧
      (runGameboyLoop gameFileName s time).point.distance < s.point.distance ∧
      ∀ x, s.point.action = some x → x ∉ answers

namespace Window

variable {answers : List ServerAction} {mark : ServerAction} {W : ServerState → Prop}
  {start : ServerState} {events : List ThreadStep}

/-- A message that comes outside the window is not lost. -/
theorem settled (hw : Window gameFileName msg answers mark W) {P : ServerState → ThreadStep → Prop}
    (hP : ∀ s, P s (.message msg) → ¬W s) (h : (serverLoop gameFileName).Along P start events) :
    Settled (.delivers msg) answers mark ((serverLoop gameFileName).history start events) := by
  refine System.settled_along (W := W) serverLoop_out ?_ ?_ ?_ h
  · intro s e he hask
    obtain rfl := delivers_mem_out hask
    exact fun hW ↦ hP s he ((hw.ask s).1 hW)
  · intro s e hW
    cases e with
    | message msg' =>
      exact (hw.message s msg' hW).imp_right fun hanswer ↦ ⟨_, List.mem_singleton_self _, hanswer⟩
    | connection isOpen => exact .inl (hw.connection s isOpen hW)
    | loop time =>
      refine (hw.loop s time hW).imp_right fun ⟨x, haction, hanswer⟩ ↦ ⟨x, ?_, hanswer⟩
      exact Option.mem_toList.2 haction
  · intro s e hmark
    exact hw.mark_inside s ((mem_out_iff hw.mark_ne).1 hmark).2

/-- A message that comes inside is lost when the loop gets to the mark. -/
theorem lost (hw : Window gameFileName msg answers mark W)
    (hW : W ((serverLoop gameFileName).run start events)) (time : ℤ) :
    ∃ n, ¬Settled (.delivers msg) answers mark ((serverLoop gameFileName).history start
      (events ++ [.message msg] ++ List.replicate n (.loop time))) := by
  have hdown (s : ServerState) (hs : W s) :
      mark ∈ (serverLoop gameFileName).out s (.loop time) ∨
        W ((serverLoop gameFileName).step s (.loop time)) ∧
          ((serverLoop gameFileName).step s (.loop time)).point.distance < s.point.distance ∧
          ∀ x ∈ (serverLoop gameFileName).out s (.loop time), x ∉ answers := by
    refine (hw.down s time hs).imp Option.mem_toList.2 fun ⟨hnext, hless, hquiet⟩ ↦ ?_
    exact ⟨hnext, hless, fun x hx ↦ hquiet x (Option.mem_toList.1 hx)⟩
  exact System.exists_not_settled (μ := fun s ↦ s.point.distance) serverLoop_out hdown rfl
    ((hw.ask _).2 hW)

end Window

/-- A message does not move the loop. -/
theorem onMessage_point (s : ServerState) (msg : String) : (onMessage s msg).point = s.point := by
  rw [onMessage]
  split_ifs <;> rfl

/-- Only a 'reset' asks for a reset. -/
theorem onMessage_restartGame (s : ServerState) (msg : String) (h : msg ≠ "reset") :
    (onMessage s msg).restartGame = s.restartGame := by
  rw [onMessage, if_neg h]
  split_ifs <;> rfl

/-- A 'step' is lost between the begin of the cycle and the clearing of the flag. -/
theorem stepping_window :
    Window gameFileName "step" [.beginsCycle] .clearsStep ServerState.Stepping where
  mark_ne := by simp
  ask s := by rw [ServerState.Stepping, onMessage_point, ServerState.Stepping]
  message s msg' h := by
    rw [ServerState.Stepping, onMessage_point] at h
    exact .inl h
  connection s isOpen h := h
  loop s time h := by
    cases hpoint : s.point <;>
      simp [ServerState.Stepping, runGameboyLoop, hpoint, LoopPoint.action] at h ⊢ <;> grind
  mark_inside s h := by
    cases hpoint : s.point <;> simp [ServerState.Stepping, hpoint, LoopPoint.action] at h ⊢
  down s time h := by
    cases hpoint : s.point <;>
      simp [ServerState.Stepping, runGameboyLoop, hpoint, LoopPoint.action, LoopPoint.distance]
        at h ⊢

/-- A 'reset' is lost between the begin of the reset and the clearing of the flag. -/
theorem resetting_window :
    Window gameFileName "reset" [.beginsReset] .clearsRestart ServerState.Resetting where
  mark_ne := by simp
  ask s := by rw [ServerState.Resetting, onMessage_point, ServerState.Resetting]
  message s msg' h := by
    rw [ServerState.Resetting, onMessage_point] at h
    exact .inl h
  connection s isOpen h := h
  loop s time h := by
    cases hpoint : s.point <;>
      simp [ServerState.Resetting, runGameboyLoop, hpoint, LoopPoint.action] at h ⊢ <;> grind
  mark_inside s h := by
    cases hpoint : s.point <;> simp [ServerState.Resetting, hpoint, LoopPoint.action] at h ⊢
  down s time h := by
    cases hpoint : s.point <;>
      simp [ServerState.Resetting, runGameboyLoop, hpoint, LoopPoint.action, LoopPoint.distance]
        at h ⊢

/-- A 'start' is lost from the delivery of a 'reset' to the clearing of the start flag. -/
theorem restarting_window :
    Window gameFileName "start" [.delivers "stop", .delivers "reset"] .clearsStart
      ServerState.Restarting where
  mark_ne := by simp
  ask s := by
    rw [ServerState.Restarting, onMessage_point, onMessage_restartGame s _ (by decide),
      ServerState.Restarting]
  message s msg' h := by
    by_cases hreset : msg' = "reset"
    · exact .inr (by simp [hreset])
    · rw [ServerState.Restarting, onMessage_point, onMessage_restartGame s _ hreset] at h
      exact .inl h
  connection s isOpen h := h
  loop s time h := by
    left
    cases hpoint : s.point <;>
      simp [ServerState.Restarting, runGameboyLoop, hpoint] at h ⊢ <;> grind
  mark_inside s h := by
    cases hpoint : s.point <;> simp [ServerState.Restarting, hpoint, LoopPoint.action] at h ⊢
  down s time h := by
    cases hpoint : s.point <;>
      simp [ServerState.Restarting, runGameboyLoop, hpoint, LoopPoint.action, LoopPoint.distance]
        at h ⊢ <;>
      grind [LoopPoint.distance]

/-! ### All commands -/

/-- **When no command is lost.**  Nothing is lost in a run, nor would be if after any part of it the
loop went on by itself, exactly when every 'step' comes outside the cycle of another, every 'reset'
outside another reset, and every 'start' outside the time from a 'reset' until the loop has cleared
the start flag. -/
theorem commands_kept_iff (gameFileName : Option (List Byte)) (machine : Machine)
    (wsConnected : Bool) (events : List ThreadStep) (time : ℤ) :
    let start := ServerState.start machine wsConnected
    (serverLoop gameFileName).Along Safe start events ↔
      ∀ pre, pre <+: events → ∀ n, NothingLost ((serverLoop gameFileName).history start
        (pre ++ List.replicate n (.loop time))) := by
  intro start
  constructor
  · rintro h pre ⟨rest, rfl⟩ n
    have hsafe : (serverLoop gameFileName).Along Safe start
        (pre ++ List.replicate n (.loop time)) := by
      refine System.along_append.2 ⟨(System.along_append.1 h).1, ?_⟩
      refine System.along_of_forall (fun e he s ↦ ?_) _
      obtain rfl := List.eq_of_mem_replicate he
      trivial
    exact ⟨stepping_window.settled (fun s hs ↦ hs.1 rfl) hsafe,
      resetting_window.settled (fun s hs ↦ hs.2.1 rfl) hsafe,
      restarting_window.settled (fun s hs ↦ hs.2.2 rfl) hsafe⟩
  · intro h
    by_contra hunsafe
    obtain ⟨u, e, v, rfl, he⟩ := System.exists_of_not_along hunsafe
    have hkept := h (u ++ [e]) ⟨v, by simp⟩
    cases e with
    | connection | loop => exact he trivial
    | message msg =>
      simp only [Safe, not_and_or, Classical.not_imp, not_not] at he
      rcases he with ⟨rfl, hW⟩ | ⟨rfl, hW⟩ | ⟨rfl, hW⟩
      · obtain ⟨n, hlost⟩ := stepping_window.lost hW time
        exact hlost (hkept n).step
      · obtain ⟨n, hlost⟩ := resetting_window.lost hW time
        exact hlost (hkept n).reset
      · obtain ⟨n, hlost⟩ := restarting_window.lost hW time
        exact hlost (hkept n).start

/-- `n` steps of the loop. -/
def loops (n : ℕ) : List ThreadStep := List.replicate n (.loop 0)

/-- A game has been started when the loop begins.  A second 'step' comes during the cycle of the
first, a second 'reset' during the reset, and a 'start' right after a 'reset': each is lost. -/
theorem commands_lost :
    let start := ServerState.start (afterGame eiGame []) true
    let name := some eiGame.bytes
    ¬NothingLost ((serverLoop name).history start
        (.message "step" :: loops 4 ++ .message "step" :: loops 2)) ∧
      ¬NothingLost ((serverLoop name).history start
        (.message "reset" :: loops 2 ++ .message "reset" :: loops 3)) ∧
      ¬NothingLost ((serverLoop name).history start
        (.message "reset" :: .message "start" :: loops 6)) := by
  refine ⟨fun h ↦ ?_, fun h ↦ ?_, fun h ↦ ?_⟩
  · exact h.step [.delivers "step", .beginsCycle, .delivers "step"] [] rfl rfl
  · exact h.reset [.delivers "reset", .beginsReset, .delivers "reset"] [] rfl rfl
  · exact h.start [.delivers "reset", .delivers "start", .beginsReset, .clearsRestart] [] rfl rfl

end GameBloat
