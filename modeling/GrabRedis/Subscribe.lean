import GrabRedis.Reflect

/-!
# `Subscribe`: the goroutine that forwards messages

`clientImpl.Subscribe` starts a goroutine that forwards each message of the subscription's
channel to `ResultChan` and closes it when that channel closes. A run interleaves go-redis,
the goroutine and the caller one step at a time; an unbuffered `ResultChan` hands a message
over in one step, as Go's runtime does.
-/

namespace GrabRedis

set_option autoImplicit false

structure Message where
  channel : String
  payload : String
  deriving DecidableEq

structure SubscribeMessage where
  channel : String
  data : GoString
  deriving DecidableEq

/-- What the goroutine sends for `msg`: `&redisapi.SubscribeMessage{Channel: msg.Channel,
Data: []byte(msg.Payload)}`. -/
def Message.toSubscribeMessage (msg : Message) : SubscribeMessage :=
  ⟨msg.channel, .ofString msg.payload⟩

/-- Where the goroutine stands: at `range ch`, blocked in `resultChan <- m`, or returned after
`close(resultChan)`. -/
inductive ForwarderPc
  | recv
  | send (m : SubscribeMessage)
  | done
  deriving DecidableEq

def ForwarderPc.held : ForwarderPc → List SubscribeMessage
  | .send m => [m]
  | _ => []

/-- The subscription's channel `ch`, the goroutine, `ResultChan` and the caller. `delivered`
records what go-redis has put on `ch`, which the program does not keep. -/
structure SubState where
  cap : Nat
  delivered : List Message
  upstream : List Message
  upClosed : Bool
  pc : ForwarderPc
  buf : List SubscribeMessage
  outClosed : Bool
  received : List SubscribeMessage
  sawClose : Bool
  deriving DecidableEq

/-- `clientImpl.Subscribe` after `Subscribe` on the primary: `make` panics on a negative
buffer size; otherwise the goroutine starts at `range ch` with nothing delivered. -/
def clientImpl.Subscribe (chanBufferSize : Int) : Except Panic SubState :=
  if chanBufferSize < 0 then .error ⟨"makechan: size out of range"⟩
  else .ok ⟨chanBufferSize.toNat, [], [], false, .recv, [], false, [], false⟩

/-- One step: go-redis puts a message on `ch` or closes it; the goroutine receives from `ch`
(or leaves the loop and closes `ResultChan`), or sends into a free slot; the caller receives. -/
inductive SubAct
  | deliver (msg : Message)
  | closeUp
  | recvUp
  | send
  | recvOut
  deriving DecidableEq

def SubState.step (s : SubState) : SubAct → Option SubState
  | .deliver msg =>
    if s.upClosed then none
    else some { s with delivered := s.delivered ++ [msg], upstream := s.upstream ++ [msg] }
  | .closeUp => if s.upClosed then none else some { s with upClosed := true }
  | .recvUp =>
    match s.pc, s.upstream with
    | .recv, msg :: rest => some { s with pc := .send msg.toSubscribeMessage, upstream := rest }
    | .recv, [] => if s.upClosed then some { s with pc := .done, outClosed := true } else none
    | _, _ => none
  | .send =>
    match s.pc with
    | .send m => if s.buf.length < s.cap then some { s with pc := .recv, buf := s.buf ++ [m] }
      else none
    | _ => none
  | .recvOut =>
    match s.buf, s.pc with
    | m :: rest, _ => some { s with buf := rest, received := s.received ++ [m] }
    | [], .send m => some { s with pc := .recv, received := s.received ++ [m] }
    | [], _ => if s.outClosed && !s.sawClose then some { s with sawClose := true } else none

def SubState.run (s : SubState) : List SubAct → Option SubState
  | [] => some s
  | a :: acts => (s.step a).bind fun s' => s'.run acts

/-- What one step can do: go-redis delivers a message or closes `ch`; the goroutine takes the
next message off `ch`, or finds `ch` closed and empty and closes `ResultChan`, or sends into a
free slot; the caller takes the first message of `ResultChan`, or the message of the goroutine
blocked in its send, or finds `ResultChan` closed and empty. -/
theorem SubState.step_cases {s s' : SubState} {a : SubAct} (h : s.step a = some s') :
    (∃ msg, a = .deliver msg ∧ s.upClosed = false ∧
      s' = { s with delivered := s.delivered ++ [msg], upstream := s.upstream ++ [msg] }) ∨
    (a = .closeUp ∧ s.upClosed = false ∧ s' = { s with upClosed := true }) ∨
    (∃ msg rest, a = .recvUp ∧ s.pc = .recv ∧ s.upstream = msg :: rest ∧
      s' = { s with pc := .send msg.toSubscribeMessage, upstream := rest }) ∨
    (a = .recvUp ∧ s.pc = .recv ∧ s.upstream = [] ∧ s.upClosed = true ∧
      s' = { s with pc := .done, outClosed := true }) ∨
    (∃ m, a = .send ∧ s.pc = .send m ∧ s.buf.length < s.cap ∧
      s' = { s with pc := .recv, buf := s.buf ++ [m] }) ∨
    (∃ m rest, a = .recvOut ∧ s.buf = m :: rest ∧
      s' = { s with buf := rest, received := s.received ++ [m] }) ∨
    (∃ m, a = .recvOut ∧ s.buf = [] ∧ s.pc = .send m ∧
      s' = { s with pc := .recv, received := s.received ++ [m] }) ∨
    (a = .recvOut ∧ s.buf = [] ∧ s.pc.held = [] ∧ s.outClosed = true ∧ s.sawClose = false ∧
      s' = { s with sawClose := true }) := by
  cases a with
  | deliver msg =>
    simp only [SubState.step] at h
    split at h
    · cases h
    · cases h; exact .inl ⟨msg, rfl, Bool.eq_false_iff.mpr ‹_›, rfl⟩
  | closeUp =>
    simp only [SubState.step] at h
    split at h
    · cases h
    · cases h; exact .inr (.inl ⟨rfl, Bool.eq_false_iff.mpr ‹_›, rfl⟩)
  | recvUp =>
    simp only [SubState.step] at h
    rcases hpc : s.pc with _ | m | _ <;> rcases hup : s.upstream with _ | ⟨msg, rest⟩ <;>
      simp only [hpc, hup, reduceCtorEq] at h
    · split at h
      · cases h; exact .inr (.inr (.inr (.inl ⟨rfl, rfl, rfl, ‹_›, rfl⟩)))
      · cases h
    · cases h; exact .inr (.inr (.inl ⟨msg, rest, rfl, rfl, rfl, rfl⟩))
  | send =>
    simp only [SubState.step] at h
    rcases hpc : s.pc with _ | m | _ <;> simp only [hpc, reduceCtorEq] at h
    split at h
    · cases h; exact .inr (.inr (.inr (.inr (.inl ⟨m, rfl, rfl, ‹_›, rfl⟩))))
    · cases h
  | recvOut =>
    simp only [SubState.step] at h
    rcases hbuf : s.buf with _ | ⟨m, rest⟩ <;> rcases hpc : s.pc with _ | m' | _ <;>
      simp only [hbuf, hpc] at h
    · split at h
      · rename_i hc
        cases h
        obtain ⟨ho, hsaw⟩ : s.outClosed = true ∧ s.sawClose = false := by simpa using hc
        exact .inr (.inr (.inr (.inr (.inr (.inr (.inr ⟨rfl, rfl, by simp [hpc, ForwarderPc.held], ho, hsaw, rfl⟩))))))
      · cases h
    · cases h; exact .inr (.inr (.inr (.inr (.inr (.inr (.inl ⟨m', rfl, rfl, rfl, rfl⟩))))))
    · split at h
      · rename_i hc
        cases h
        obtain ⟨ho, hsaw⟩ : s.outClosed = true ∧ s.sawClose = false := by simpa using hc
        exact .inr (.inr (.inr (.inr (.inr (.inr (.inr ⟨rfl, rfl, by simp [hpc, ForwarderPc.held], ho, hsaw, rfl⟩))))))
      · cases h
    all_goals cases h; exact .inr (.inr (.inr (.inr (.inr (.inl ⟨m, rest, rfl, rfl, rfl⟩)))))

/-! ## Every message once, in order -/

/-- On the way from go-redis to the caller each delivered message is in exactly one place, and
the places are in order: read by the caller, in `ResultChan`, held by the goroutine, on `ch`. -/
structure SubState.Inv (s : SubState) : Prop where
  fifo : s.received ++ s.buf ++ s.pc.held ++ s.upstream.map Message.toSubscribeMessage =
    s.delivered.map Message.toSubscribeMessage
  bounded : s.buf.length ≤ s.cap
  closed : s.outClosed = true → s.pc = .done ∧ s.upstream = [] ∧ s.upClosed = true
  done : s.pc = .done → s.outClosed = true
  saw : s.sawClose = true → s.outClosed = true ∧ s.buf = []

theorem SubState.subscribe_ok {n : Int} {s : SubState} (h : clientImpl.Subscribe n = .ok s) :
    s = ⟨n.toNat, [], [], false, .recv, [], false, [], false⟩ := by
  unfold clientImpl.Subscribe at h
  split at h
  · cases h
  · cases h; rfl

theorem SubState.inv_init {n : Int} {s : SubState} (h : clientImpl.Subscribe n = .ok s) :
    s.Inv := by
  cases SubState.subscribe_ok h
  exact ⟨rfl, Nat.zero_le _, nofun, nofun, nofun⟩

theorem SubState.Inv.step {s s' : SubState} {a : SubAct} (h : s.Inv) (hs : s.step a = some s') :
    s'.Inv := by
  obtain ⟨hfifo, hbound, hclosed, hdone, hsaw⟩ := h
  have hopen : s.pc ≠ .done → s.outClosed = false := fun hpc => by
    cases ho : s.outClosed
    · rfl
    · exact absurd (hclosed ho).1 hpc
  rcases SubState.step_cases hs with
    ⟨msg, -, hu, rfl⟩ | ⟨-, hu, rfl⟩ | ⟨msg, rest, -, hpc, hup, rfl⟩ | ⟨-, hpc, hup, hu, rfl⟩ |
    ⟨m, -, hpc, hlt, rfl⟩ | ⟨m, rest, -, hbuf, rfl⟩ | ⟨m, -, hbuf, hpc, rfl⟩ |
    ⟨-, hbuf, hheld, ho, -, rfl⟩
  · -- go-redis delivers `msg`
    refine ⟨?_, hbound, fun hc => by simp_all, hdone, hsaw⟩
    simp only [List.map_append, ← hfifo, List.append_assoc]
  · -- go-redis closes `ch`
    exact ⟨hfifo, hbound, fun hc => ⟨(hclosed hc).1, (hclosed hc).2.1, rfl⟩, hdone, hsaw⟩
  · -- the goroutine takes `msg` off `ch`
    have ho := hopen (by simp [hpc])
    refine ⟨?_, hbound, fun hc => by simp_all, nofun, fun hc => by simp_all⟩
    rw [← hfifo, hpc, hup]
    simp [ForwarderPc.held]
  · -- `ch` is closed and empty: the loop ends and `ResultChan` is closed
    refine ⟨by simpa [ForwarderPc.held, hpc] using hfifo, hbound, fun _ => ⟨rfl, hup, hu⟩,
      fun _ => rfl, fun hc => ⟨rfl, (hsaw hc).2⟩⟩
  · -- the goroutine sends into a free slot
    have ho := hopen (by simp [hpc])
    refine ⟨?_, by simp; omega, fun hc => by simp_all, nofun, fun hc => by simp_all⟩
    rw [← hfifo, hpc]
    simp [ForwarderPc.held]
  · -- the caller takes the first message of `ResultChan`
    refine ⟨?_, by dsimp only; simp [hbuf] at hbound; omega, hclosed, hdone, fun hc => by simp_all⟩
    rw [← hfifo, hbuf]
    simp
  · -- the caller takes the message of the goroutine blocked in its send
    have ho := hopen (by simp [hpc])
    refine ⟨?_, hbound, fun hc => by simp_all, nofun, fun hc => by simp_all⟩
    rw [← hfifo, hbuf, hpc]
    simp [ForwarderPc.held]
  · -- the caller finds `ResultChan` closed and empty
    exact ⟨hfifo, hbound, hclosed, hdone, fun _ => ⟨ho, hbuf⟩⟩

theorem SubState.Inv.run :
    ∀ {acts : List SubAct} {s s' : SubState}, s.Inv → s.run acts = some s' → s'.Inv
  | [], _, _, h, hr => by cases hr; exact h
  | _ :: _, _, _, h, hr => by
    obtain ⟨s₁, h₁, h₂⟩ := Option.bind_eq_some.mp hr
    exact SubState.Inv.run (h.step h₁) h₂

theorem SubState.step_cap {s s' : SubState} {a : SubAct} (h : s.step a = some s') :
    s'.cap = s.cap := by
  rcases SubState.step_cases h with
    ⟨_, -, -, rfl⟩ | ⟨-, -, rfl⟩ | ⟨_, _, -, -, -, rfl⟩ | ⟨-, -, -, -, rfl⟩ | ⟨_, -, -, -, rfl⟩ |
    ⟨_, _, -, -, rfl⟩ | ⟨_, -, -, -, rfl⟩ | ⟨-, -, -, -, -, rfl⟩ <;> rfl

theorem SubState.run_cap :
    ∀ {acts : List SubAct} {s s' : SubState}, s.run acts = some s' → s'.cap = s.cap
  | [], _, _, hr => by cases hr; rfl
  | _ :: _, _, _, hr => by
    obtain ⟨s₁, h₁, h₂⟩ := Option.bind_eq_some.mp hr
    exact (SubState.run_cap h₂).trans (SubState.step_cap h₁)

theorem SubState.Inv.received_of_sawClose {s : SubState} (h : s.Inv) (hsaw : s.sawClose = true) :
    s.received = s.delivered.map Message.toSubscribeMessage := by
  obtain ⟨ho, hbuf⟩ := h.saw hsaw
  obtain ⟨hpc, hup, -⟩ := h.closed ho
  simpa [hbuf, hpc, hup, ForwarderPc.held] using h.fifo

/-- Whatever the interleaving of go-redis, the goroutine and the caller after `Subscribe` with a
size go accepts: the caller has read, once each and in order, the first of the messages
go-redis delivered, as `SubscribeMessage`s; `ResultChan` never holds more than its size; and
once the caller has seen `ResultChan` closed it has read all of them. -/
theorem subscribe_forwards_in_order {n : Int} {s₀ s : SubState}
    (h₀ : clientImpl.Subscribe n = .ok s₀) {acts : List SubAct} (hr : s₀.run acts = some s) :
    s.received <+: s.delivered.map Message.toSubscribeMessage ∧ s.buf.length ≤ n.toNat ∧
      (s.sawClose = true → s.received = s.delivered.map Message.toSubscribeMessage) := by
  have h := (SubState.inv_init h₀).run hr
  have hcap : s₀.cap = n.toNat := by rw [SubState.subscribe_ok h₀]
  refine ⟨⟨s.buf ++ s.pc.held ++ s.upstream.map Message.toSubscribeMessage, ?_⟩,
    (SubState.run_cap hr).trans hcap ▸ h.bounded, h.received_of_sawClose⟩
  rw [← h.fifo, List.append_assoc, List.append_assoc, List.append_assoc]

theorem subscribe_forwards_in_order_three :
    let m₁ : Message := ⟨"news", "a"⟩
    let m₂ : Message := ⟨"news", "b"⟩
    let m₃ : Message := ⟨"sport", "c"⟩
    let acts : List SubAct := [.deliver m₁, .recvUp, .deliver m₂, .send, .recvUp, .deliver m₃,
      .recvOut, .send, .recvUp, .closeUp, .recvOut, .recvOut, .recvUp, .recvOut]
    let s : SubState := ⟨1, [m₁, m₂, m₃], [], true, .done, [],
      true, [m₁, m₂, m₃].map Message.toSubscribeMessage, true⟩
    clientImpl.Subscribe 1 = .ok ⟨1, [], [], false, .recv, [], false, [], false⟩ ∧
      SubState.run ⟨1, [], [], false, .recv, [], false, [], false⟩ acts = some s ∧
      (s.received <+: s.delivered.map Message.toSubscribeMessage ∧ s.buf.length ≤ (1 : Int).toNat ∧
        (s.sawClose = true → s.received = s.delivered.map Message.toSubscribeMessage)) := by
  intro m₁ m₂ m₃ acts s
  have h₀ : clientImpl.Subscribe 1 = .ok ⟨1, [], [], false, .recv, [], false, [], false⟩ := rfl
  have hr : SubState.run ⟨1, [], [], false, .recv, [], false, [], false⟩ acts = some s := by
    decide
  exact ⟨h₀, hr, subscribe_forwards_in_order h₀ hr⟩

/-! ## After go-redis closes the subscription -/

def SubAct.isLocal : SubAct → Bool
  | .recvUp | .send | .recvOut => true
  | .deliver _ | .closeUp => false

/-- The steps the goroutine and the caller have left: three for a message on `ch`, two for the
one the goroutine holds, one for each in `ResultChan`, one for each close not yet done. -/
def SubState.pending (s : SubState) : Nat :=
  3 * s.upstream.length + 2 * s.pc.held.length + s.buf.length + (if s.outClosed then 0 else 1) +
    (if s.sawClose then 0 else 1)

/-- A step of the goroutine or the caller leaves one step less to do and changes neither what
go-redis has delivered nor whether it has closed `ch`. -/
theorem SubState.Inv.pending_step {s s' : SubState} {a : SubAct} (h : s.Inv) (ha : a.isLocal)
    (hs : s.step a = some s') :
    s'.pending < s.pending ∧ s'.delivered = s.delivered ∧ s'.upClosed = s.upClosed := by
  have hopen : s.pc ≠ .done → s.outClosed = false := fun hpc => by
    cases ho : s.outClosed
    · rfl
    · exact absurd (h.closed ho).1 hpc
  rcases SubState.step_cases hs with
    ⟨msg, rfl, -, -⟩ | ⟨rfl, -, -⟩ | ⟨msg, rest, -, hpc, hup, rfl⟩ | ⟨-, hpc, hup, -, rfl⟩ |
    ⟨m, -, hpc, -, rfl⟩ | ⟨m, rest, -, hbuf, rfl⟩ | ⟨m, -, hbuf, hpc, rfl⟩ |
    ⟨-, -, -, -, hsaw, rfl⟩
  · cases ha
  · cases ha
  all_goals refine ⟨?_, rfl, rfl⟩
  · simp [SubState.pending, hpc, hup, ForwarderPc.held]; omega
  · simp [SubState.pending, hpc, hopen (by simp [hpc]), ForwarderPc.held]
  · simp [SubState.pending, hpc, ForwarderPc.held]; omega
  · simp [SubState.pending, hbuf]
  · simp [SubState.pending, hpc, hbuf, ForwarderPc.held]
  · simp [SubState.pending, hsaw]

theorem SubState.Inv.pending_run :
    ∀ {acts : List SubAct} {s s' : SubState}, s.Inv → (∀ a ∈ acts, a.isLocal) →
      s.run acts = some s' →
      acts.length + s'.pending ≤ s.pending ∧ s'.delivered = s.delivered ∧
        s'.upClosed = s.upClosed ∧ s'.Inv
  | [], _, _, h, _, hr => by cases hr; exact ⟨by simp, rfl, rfl, h⟩
  | a :: _, _, _, h, hloc, hr => by
    obtain ⟨s₁, h₁, h₂⟩ := Option.bind_eq_some.mp hr
    obtain ⟨hlt, hdel, hup⟩ := h.pending_step (hloc a (.head _)) h₁
    obtain ⟨hle, hdel', hup', h'⟩ :=
      (h.step h₁).pending_run (fun b hb => hloc b (.tail _ hb)) h₂
    exact ⟨by simp only [List.length_cons]; omega, hdel'.trans hdel, hup'.trans hup, h'⟩

theorem SubState.Inv.sawClose_of_stuck {s : SubState} (h : s.Inv) (hup : s.upClosed = true)
    (hstuck : ∀ a : SubAct, a.isLocal → s.step a = none) : s.sawClose = true := by
  cases hsaw : s.sawClose
  · have hout := hstuck .recvOut rfl
    have hin := hstuck .recvUp rfl
    rcases hbuf : s.buf with _ | ⟨m, rest⟩
    · rcases hpc : s.pc with _ | m | _
      · rcases hups : s.upstream with _ | ⟨msg, rest⟩ <;>
          simp [SubState.step, hpc, hups, hup] at hin
      · simp [SubState.step, hbuf, hpc] at hout
      · simp [SubState.step, hbuf, hpc, h.done hpc, hsaw] at hout
    · simp [SubState.step, hbuf] at hout
  · rfl

/-- Once go-redis has closed the subscription's channel, the goroutine and the caller finish
on their own: every run of their steps from a reachable state is at most `pending` steps long,
and a run that cannot go on ends with the caller having seen `ResultChan` closed after reading
every message go-redis delivered, once each and in order. -/
theorem subscribe_drains_after_close {n : Int} {s₀ s : SubState}
    (h₀ : clientImpl.Subscribe n = .ok s₀) {acts : List SubAct} (hr : s₀.run acts = some s)
    (hup : s.upClosed = true) {rest : List SubAct} (hloc : ∀ a ∈ rest, a.isLocal)
    {s' : SubState} (hr' : s.run rest = some s') :
    rest.length ≤ s.pending ∧
      ((∀ a : SubAct, a.isLocal → s'.step a = none) →
        s'.sawClose = true ∧ s'.received = s.delivered.map Message.toSubscribeMessage) := by
  have h := (SubState.inv_init h₀).run hr
  obtain ⟨hle, hdel, hup', h'⟩ := h.pending_run hloc hr'
  refine ⟨by omega, fun hstuck => ?_⟩
  have hsaw := h'.sawClose_of_stuck (hup'.trans hup) hstuck
  exact ⟨hsaw, hdel ▸ h'.received_of_sawClose hsaw⟩

theorem subscribe_drains_after_close_unbuffered :
    let m₁ : Message := ⟨"news", "a"⟩
    let m₂ : Message := ⟨"news", "b"⟩
    let s₀ : SubState := ⟨0, [], [], false, .recv, [], false, [], false⟩
    let s : SubState := ⟨0, [m₁, m₂], [m₁, m₂], true, .recv, [], false, [], false⟩
    let rest : List SubAct := [.recvUp, .recvOut, .recvUp, .recvOut, .recvUp, .recvOut]
    let s' : SubState := ⟨0, [m₁, m₂], [], true, .done, [], true,
      [m₁, m₂].map Message.toSubscribeMessage, true⟩
    clientImpl.Subscribe 0 = .ok s₀ ∧ s₀.run [.deliver m₁, .deliver m₂, .closeUp] = some s ∧
      s.upClosed = true ∧ (∀ a ∈ rest, a.isLocal) ∧ s.run rest = some s' ∧
      (rest.length ≤ s.pending ∧
        ((∀ a : SubAct, a.isLocal → s'.step a = none) →
          s'.sawClose = true ∧ s'.received = s.delivered.map Message.toSubscribeMessage)) := by
  intro m₁ m₂ s₀ s rest s'
  have h₀ : clientImpl.Subscribe 0 = .ok s₀ := rfl
  have hr : s₀.run [.deliver m₁, .deliver m₂, .closeUp] = some s := by decide
  have hloc : ∀ a ∈ rest, a.isLocal := by decide
  have hr' : s.run rest = some s' := by decide
  exact ⟨h₀, hr, rfl, hloc, hr', subscribe_drains_after_close h₀ hr rfl hloc hr'⟩

/-! ## A subscription nobody reads -/

theorem ForwarderPc.held_length_le (pc : ForwarderPc) : pc.held.length ≤ 1 := by
  cases pc <;> simp [ForwarderPc.held]

theorem SubState.step_of_ne_recvOut {s s' : SubState} {a : SubAct} (ha : a ≠ .recvOut)
    (hs : s.step a = some s') :
    s'.received = s.received ∧ (∀ m, s.pc = .send m → s.cap ≤ s.buf.length →
      s'.pc = s.pc ∧ s'.buf = s.buf ∧ s'.cap = s.cap) := by
  rcases SubState.step_cases hs with
    ⟨_, -, -, rfl⟩ | ⟨-, -, rfl⟩ | ⟨_, _, -, hpc, -, rfl⟩ | ⟨-, hpc, -, -, rfl⟩ |
    ⟨_, -, -, hlt, rfl⟩ | ⟨_, _, rfl, -⟩ | ⟨_, rfl, -⟩ | ⟨rfl, -⟩
  · exact ⟨rfl, fun _ _ _ => ⟨rfl, rfl, rfl⟩⟩
  · exact ⟨rfl, fun _ _ _ => ⟨rfl, rfl, rfl⟩⟩
  · exact ⟨rfl, fun m hm _ => absurd (hpc.symm.trans hm) (by simp)⟩
  · exact ⟨rfl, fun m hm _ => absurd (hpc.symm.trans hm) (by simp)⟩
  · exact ⟨rfl, fun _ _ hfull => absurd hlt (Nat.not_lt.mpr hfull)⟩
  all_goals exact absurd rfl ha

theorem SubState.run_of_ne_recvOut :
    ∀ {acts : List SubAct} {s s' : SubState}, (∀ a ∈ acts, a ≠ .recvOut) →
      s.run acts = some s' →
      s'.received = s.received ∧ (∀ m, s.pc = .send m → s.cap ≤ s.buf.length →
        s'.pc = s.pc ∧ s'.buf = s.buf)
  | [], _, _, _, hr => by cases hr; exact ⟨rfl, fun _ _ _ => ⟨rfl, rfl⟩⟩
  | a :: _, _, _, hno, hr => by
    obtain ⟨s₁, h₁, h₂⟩ := Option.bind_eq_some.mp hr
    obtain ⟨hrec₁, hstall₁⟩ := SubState.step_of_ne_recvOut (hno a (.head _)) h₁
    obtain ⟨hrec₂, hstall₂⟩ := SubState.run_of_ne_recvOut (fun b hb => hno b (.tail _ hb)) h₂
    refine ⟨hrec₂.trans hrec₁, fun m hm hfull => ?_⟩
    obtain ⟨hpc₁, hbuf₁, hcap₁⟩ := hstall₁ m hm hfull
    obtain ⟨hpc₂, hbuf₂⟩ := hstall₂ m (hpc₁.trans hm) (by rw [hcap₁, hbuf₁]; exact hfull)
    exact ⟨hpc₂.trans hpc₁, hbuf₂.trans hbuf₁⟩

/-- A subscription whose `ResultChan` nobody reads, as those `connectorImpl.Subscribe` opens on
the shadow clients and drops: however go-redis delivers, the goroutine has taken at most
`chanBufferSize + 1` messages off `ch` and every later one stays there; once it holds a message
with `ResultChan` full, it never moves again, whatever go-redis does. -/
theorem unread_subscription_stalls {n : Int} {s₀ s : SubState}
    (h₀ : clientImpl.Subscribe n = .ok s₀) {acts : List SubAct}
    (hno : ∀ a ∈ acts, a ≠ .recvOut) (hr : s₀.run acts = some s) :
    s.delivered.length ≤ s.upstream.length + n.toNat + 1 ∧
      ∀ m, s.pc = .send m → n.toNat ≤ s.buf.length →
        ∀ {more : List SubAct} {s' : SubState}, (∀ a ∈ more, a ≠ .recvOut) →
          s.run more = some s' → s'.pc = .send m ∧ s'.buf = s.buf := by
  have h := (SubState.inv_init h₀).run hr
  cases SubState.subscribe_ok h₀
  have hcap := SubState.run_cap hr
  obtain ⟨hrec, -⟩ := SubState.run_of_ne_recvOut hno hr
  refine ⟨?_, fun m hm hfull more s' hmore hr' => ?_⟩
  · have hlen := congrArg List.length h.fifo
    simp only [hrec, List.append_assoc, List.nil_append, List.length_append,
      List.length_map] at hlen
    have := h.bounded
    have := s.pc.held_length_le
    dsimp only at hcap
    omega
  · obtain ⟨-, hstall⟩ := SubState.run_of_ne_recvOut hmore hr'
    exact hm ▸ hstall m hm (hcap ▸ hfull)

theorem unread_subscription_stalls_full :
    let m₁ : Message := ⟨"news", "a"⟩
    let m₂ : Message := ⟨"news", "b"⟩
    let m₃ : Message := ⟨"news", "c"⟩
    let s₀ : SubState := ⟨1, [], [], false, .recv, [], false, [], false⟩
    let acts : List SubAct := [.deliver m₁, .recvUp, .send, .deliver m₂, .recvUp, .deliver m₃]
    let s : SubState := ⟨1, [m₁, m₂, m₃], [m₃], false, .send m₂.toSubscribeMessage,
      [m₁.toSubscribeMessage], false, [], false⟩
    clientImpl.Subscribe 1 = .ok s₀ ∧ (∀ a ∈ acts, a ≠ .recvOut) ∧ s₀.run acts = some s ∧
      (s.delivered.length ≤ s.upstream.length + (1 : Int).toNat + 1 ∧
        ∀ m, s.pc = .send m → (1 : Int).toNat ≤ s.buf.length →
          ∀ {more : List SubAct} {s' : SubState}, (∀ a ∈ more, a ≠ .recvOut) →
            s.run more = some s' → s'.pc = .send m ∧ s'.buf = s.buf) := by
  intro m₁ m₂ m₃ s₀ acts s
  have h₀ : clientImpl.Subscribe 1 = .ok s₀ := rfl
  have hno : ∀ a ∈ acts, a ≠ .recvOut := by decide
  have hr : s₀.run acts = some s := by decide
  exact ⟨h₀, hno, hr, unread_subscription_stalls h₀ hno hr⟩

end GrabRedis
