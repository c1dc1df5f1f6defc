import VehicleRunner.Bundle.ZmqSubscribe

/-! `Exec`, `Stop` and the destructor of `ZmqPublish_Impl` and `ZmqSubscribe_Impl`: what
they do to the socket, and what the socket raises. The destructor runs `Stop`. -/

namespace VehicleRunner.Bundle.Zmq

inductive Operation where
  | set | bind | unbind | connect | disconnect
  deriving DecidableEq

/-- What an operation raises: the state of the socket does not allow it, or it is
refused for a reason outside the program. -/
inductive Error where
  | misused (operation : Operation)
  | refused (operation : Operation)
  deriving DecidableEq

/-- A socket with the endpoints it is bound or connected to. -/
structure Socket where
  closed : Bool := false
  endpoints : List String := []
  deriving DecidableEq

namespace Socket

def set (socket : Socket) : Except Error Unit :=
  if socket.closed then .error (.misused .set) else .ok ()

/-- `bind` and `connect`; an open socket may still refuse the endpoint. -/
def attach (operation : Operation) (accepted : Bool) (url : String) (socket : Socket) :
    Except Error Socket :=
  if socket.closed then .error (.misused operation)
  else if accepted then .ok { socket with endpoints := url :: socket.endpoints }
  else .error (.refused operation)

/-- `unbind` and `disconnect`. -/
def detach (operation : Operation) (url : String) (socket : Socket) : Except Error Socket :=
  if socket.closed ∨ url ∉ socket.endpoints then .error (.misused operation)
  else .ok { socket with endpoints := socket.endpoints.erase url }

def close (_ : Socket) : Socket := { closed := true, endpoints := [] }

end Socket

/-! ## The publisher -/

structure Publisher where
  config : ZmqPublish.Config
  zmqSocket : Socket := {}
  contextClosed : Bool := false
  deriving DecidableEq

/-- What the call raises, if anything, and the object afterwards. -/
def Publisher.exec (accepted : Bool) (publisher : Publisher) : Except Error Unit × Publisher :=
  match publisher.zmqSocket.attach .bind accepted publisher.config.localUrl with
  | .error raised => (.error raised, publisher)
  | .ok socket => (.ok (), { publisher with zmqSocket := socket })

def Publisher.stop (publisher : Publisher) : Except Error Unit × Publisher :=
  match publisher.zmqSocket.detach .unbind publisher.config.localUrl with
  | .error raised => (.error raised, publisher)
  | .ok socket => (.ok (), { publisher with zmqSocket := socket.close, contextClosed := true })

/-! ## The subscriber -/

structure Subscriber where
  config : ZmqSubscribe.Config
  thread : Bool := false
  zmqSocket : Socket := {}
  contextClosed : Bool := false
  deriving DecidableEq

def Subscriber.exec (accepted : Bool) (subscriber : Subscriber) : Except Error Unit × Subscriber :=
  match subscriber.zmqSocket.set with
  | .error raised => (.error raised, subscriber)
  | .ok () =>
    match subscriber.zmqSocket.attach .connect accepted subscriber.config.remoteUrl with
    | .error raised => (.error raised, subscriber)
    | .ok socket => (.ok (), { subscriber with zmqSocket := socket, thread := true })

def Subscriber.stop (subscriber : Subscriber) : Except Error Unit × Subscriber :=
  if subscriber.thread then
    -- The thread is joined and released before the socket is touched.
    let joined := { subscriber with thread := false }
    match joined.zmqSocket.detach .disconnect joined.config.remoteUrl with
    | .error raised => (.error raised, joined)
    | .ok socket => (.ok (), { joined with zmqSocket := socket.close, contextClosed := true })
  else (.ok (), subscriber)

/-! ## Lifetimes -/

inductive Call where
  | exec (accepted : Bool)
  | stop
  deriving DecidableEq

/-- A class of objects that are started and stopped, and stopped once more when destroyed. -/
structure Endpoint (Object : Type) where
  exec : Bool → Object → Except Error Unit × Object
  stop : Object → Except Error Unit × Object
  running : Object → Bool

def publishers : Endpoint Publisher where
  exec := Publisher.exec
  stop := Publisher.stop
  running publisher := publisher.config.localUrl ∈ publisher.zmqSocket.endpoints

def subscribers : Endpoint Subscriber where
  exec := Subscriber.exec
  stop := Subscriber.stop
  running subscriber := subscriber.thread

namespace Endpoint

variable {Object : Type}

/-- A raised exception reaches the caller, and the object lives on. -/
def perform (endpoint : Endpoint Object) (object : Object) : Call → Except Error Unit × Object
  | .exec accepted => endpoint.exec accepted object
  | .stop => endpoint.stop object

/-- Only an object that is not running is started. -/
def Admissible (endpoint : Endpoint Object) : Object → List Call → Prop
  | _, [] => True
  | object, call :: calls =>
    (call ≠ .stop → endpoint.running object = false) ∧
      endpoint.Admissible (endpoint.perform object call).2 calls

/-- No endpoint was bound, unbound, connected or disconnected on a socket that did not
allow it. -/
def Proper (outcome : Except Error Unit) : Prop :=
  ∀ operation, outcome = .error (.misused operation) → operation = .set

/-- Every call is proper, and the destructor at the end raises nothing. -/
def Survives (endpoint : Endpoint Object) : Object → List Call → Prop
  | object, [] => (endpoint.stop object).1 = .ok ()
  | object, call :: calls =>
    Proper (endpoint.perform object call).1 ∧
      endpoint.Survives (endpoint.perform object call).2 calls

end Endpoint

/-- Once its socket is closed, nothing more goes well with a publisher. -/
theorem publisher_closed {publisher : Publisher} (closed : publisher.zmqSocket.closed = true)
    (calls : List Call) : ¬ publishers.Survives publisher calls := by
  have stuck : publisher.stop = (.error (.misused .unbind), publisher) := by
    simp [Publisher.stop, Socket.detach, closed]
  cases calls with
  | nil =>
    intro survives
    have raised : publisher.stop.1 = .ok () := survives
    rw [stuck] at raised
    cases raised
  | cons call calls =>
    rintro ⟨proper, _⟩
    cases call with
    | exec accepted =>
      have wrong := proper .bind (by simp [Endpoint.perform, publishers, Publisher.exec, Socket.attach, closed])
      cases wrong
    | stop =>
      have wrong := proper .unbind (congrArg Prod.fst stuck)
      cases wrong

/-- A bound publisher can only be destroyed: its `Stop` closes the socket for good. -/
theorem publisher_bound (config : ZmqPublish.Config) (calls : List Call)
    (admissible : publishers.Admissible ⟨config, ⟨false, [config.localUrl]⟩, false⟩ calls) :
    publishers.Survives ⟨config, ⟨false, [config.localUrl]⟩, false⟩ calls ↔ calls = [] := by
  have stopped : Publisher.stop ⟨config, ⟨false, [config.localUrl]⟩, false⟩ =
      (.ok (), ⟨config, ⟨true, []⟩, true⟩) := by
    simp [Publisher.stop, Socket.detach, Socket.close]
  cases calls with
  | nil => exact ⟨fun _ => rfl, fun _ => congrArg Prod.fst stopped⟩
  | cons call calls =>
    refine ⟨?_, nofun⟩
    rintro ⟨_, survives⟩
    cases call with
    | exec accepted => simp [Endpoint.Admissible, publishers] at admissible
    | stop =>
      simp only [Endpoint.perform, publishers, stopped] at survives
      exact absurd survives (publisher_closed rfl calls)

/-- A publisher lives well exactly through one successful `Exec`, after any number that
were refused, and no `Stop` but the destructor's. -/
theorem publisher_survives_iff (config : ZmqPublish.Config) (calls : List Call)
    (admissible : publishers.Admissible ⟨config, {}, false⟩ calls) :
    publishers.Survives ⟨config, {}, false⟩ calls ↔
      ∃ refused, calls = List.replicate refused (.exec false) ++ [.exec true] := by
  have unbound : Publisher.stop ⟨config, {}, false⟩ =
      (.error (.misused .unbind), ⟨config, {}, false⟩) := by
    simp [Publisher.stop, Socket.detach]
  induction calls with
  | nil =>
    constructor
    · intro survives
      have raised : (Publisher.stop ⟨config, {}, false⟩).1 = .ok () := survives
      rw [unbound] at raised
      cases raised
    · rintro ⟨refused, same⟩
      simp at same
  | cons call calls ih =>
    cases call with
    | stop =>
      constructor
      · rintro ⟨proper, _⟩
        have wrong := proper .unbind (congrArg Prod.fst unbound)
        cases wrong
      · rintro ⟨refused, same⟩
        cases refused <;> simp [List.replicate_succ] at same
    | exec accepted =>
      obtain ⟨_, admissible⟩ := admissible
      cases accepted with
      | false =>
        have kept : publishers.Survives ⟨config, {}, false⟩ (.exec false :: calls) ↔
            publishers.Survives ⟨config, {}, false⟩ calls :=
          ⟨fun survives => survives.2, fun survives => ⟨nofun, survives⟩⟩
        refine kept.trans ((ih admissible).trans ?_)
        constructor
        · rintro ⟨refused, rfl⟩
          exact ⟨refused + 1, by simp [List.replicate_succ]⟩
        · rintro ⟨refused, same⟩
          cases refused with
          | zero => simp at same
          | succ refused =>
            rw [List.replicate_succ, List.cons_append] at same
            exact ⟨refused, (List.cons.inj same).2⟩
      | true =>
        have bound : publishers.Survives ⟨config, {}, false⟩ (.exec true :: calls) ↔
            publishers.Survives ⟨config, ⟨false, [config.localUrl]⟩, false⟩ calls :=
          ⟨fun survives => survives.2, fun survives => ⟨nofun, survives⟩⟩
        rw [bound, publisher_bound config calls admissible]
        constructor
        · rintro rfl
          exact ⟨0, rfl⟩
        · rintro ⟨refused, same⟩
          cases refused with
          | zero => exact (List.cons.inj same).2
          | succ refused => simp [List.replicate_succ] at same

/-- While its thread runs, a subscriber's socket is open and connected. -/
def Connected (subscriber : Subscriber) : Prop :=
  subscriber.thread = true → subscriber.zmqSocket.closed = false ∧
    subscriber.config.remoteUrl ∈ subscriber.zmqSocket.endpoints

theorem Connected.exec {subscriber : Subscriber} (connected : Connected subscriber) (accepted : Bool) :
    Endpoint.Proper (subscriber.exec accepted).1 ∧ Connected (subscriber.exec accepted).2 := by
  unfold Subscriber.exec Socket.set Socket.attach
  cases closed : subscriber.zmqSocket.closed with
  | true =>
    -- Setting an option already raises, so nothing is connected.
    refine ⟨?_, by simpa using connected⟩
    intro operation raised
    cases raised
    rfl
  | false =>
    cases accepted with
    | false => exact ⟨nofun, by simpa using connected⟩
    | true =>
      refine ⟨nofun, ?_⟩
      intro _
      simp

theorem Connected.stop {subscriber : Subscriber} (connected : Connected subscriber) :
    subscriber.stop.1 = .ok () ∧ Connected subscriber.stop.2 := by
  unfold Subscriber.stop Socket.detach
  cases running : subscriber.thread with
  | true =>
    obtain ⟨opened, inUse⟩ := connected running
    simp [opened, inUse, Connected]
  | false => exact ⟨rfl, by simpa using connected⟩

/-- A stopped subscriber cannot be started again: its socket takes no more options. -/
theorem subscriber_restart {subscriber : Subscriber} (connected : Connected subscriber)
    (running : subscriber.thread = true) (accepted : Bool) :
    subscriber.stop.2.exec accepted = (.error (.misused .set), subscriber.stop.2) := by
  obtain ⟨opened, inUse⟩ := connected running
  simp [Subscriber.stop, Subscriber.exec, Socket.detach, Socket.close, Socket.set, running, opened, inUse]

theorem subscriber_survives {subscriber : Subscriber} (connected : Connected subscriber)
    (calls : List Call) : subscribers.Survives subscriber calls := by
  induction calls generalizing subscriber with
  | nil => exact connected.stop.1
  | cons call calls ih =>
    cases call with
    | exec accepted =>
      obtain ⟨proper, next⟩ := connected.exec accepted
      exact ⟨proper, ih next⟩
    | stop =>
      obtain ⟨silent, next⟩ := connected.stop
      refine ⟨?_, ih next⟩
      intro operation raised
      have both : Except.ok () = Except.error (Error.misused operation) := silent.symm.trans raised
      cases both

/-- A subscriber survives every lifetime, and a publisher exactly those in which it is
started once and left running. -/
theorem endpoints_survive_iff (published : ZmqPublish.Config) (subscribed : ZmqSubscribe.Config)
    (calls : List Call) :
    (publishers.Admissible ⟨published, {}, false⟩ calls →
      (publishers.Survives ⟨published, {}, false⟩ calls ↔
        ∃ refused, calls = List.replicate refused (.exec false) ++ [.exec true])) ∧
    (subscribers.Admissible ⟨subscribed, false, {}, false⟩ calls →
      subscribers.Survives ⟨subscribed, false, {}, false⟩ calls) :=
  ⟨publisher_survives_iff published calls, fun _ => subscriber_survives (by intro running; cases running) calls⟩

theorem endpoints_survive_once :
    publishers.Survives ⟨⟨1, "tcp://0.0.0.0:9872"⟩, {}, false⟩ [.exec true] ∧
    subscribers.Survives ⟨⟨1, "tcp://172.24.200.10:9872"⟩, false, {}, false⟩ [.exec true] := by
  obtain ⟨publisher, subscriber⟩ := endpoints_survive_iff ⟨1, "tcp://0.0.0.0:9872"⟩
    ⟨1, "tcp://172.24.200.10:9872"⟩ [.exec true]
  exact ⟨(publisher ⟨fun _ => rfl, trivial⟩).mpr ⟨0, rfl⟩, subscriber ⟨fun _ => rfl, trivial⟩⟩

/-- A publisher that was never started raises in its destructor. -/
theorem endpoints_fail :
    ¬ ∀ (published : ZmqPublish.Config) (subscribed : ZmqSubscribe.Config) (calls : List Call),
      (publishers.Admissible ⟨published, {}, false⟩ calls →
        publishers.Survives ⟨published, {}, false⟩ calls) ∧
      (subscribers.Admissible ⟨subscribed, false, {}, false⟩ calls →
        subscribers.Survives ⟨subscribed, false, {}, false⟩ calls) := by
  intro survive
  have raised : Except.error (Error.misused .unbind) = Except.ok () :=
    (survive ⟨1, "tcp://0.0.0.0:9872"⟩ ⟨1, "tcp://172.24.200.10:9872"⟩ []).1 trivial
  cases raised

end VehicleRunner.Bundle.Zmq
