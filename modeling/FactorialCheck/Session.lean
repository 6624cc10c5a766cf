import FactorialCheck.Program

/-!
# Sessions

A sequence of steps over one environment and one sink.
-/

namespace FactorialCheck

structure Session where
  environment : Environment
  sink : Sink

inductive Step where
  | set (name value : String)
  | unset (name : String)
  | load
  | run (words : List String)
  | announce (n : Int64)
  /-- Announces the check of the configured input. -/
  | announceConfigured
  | announceNothing
  | evaluate (strategy : Strategy) (n : Int64)
  deriving DecidableEq, Repr

/-- What a step answers. -/
inductive Answer where
  | none
  | loaded (result : Except ConfigurationError Configuration)
  | ran (outcome : Outcome)
  | announced (result : Traced ProgramError Report)
  | announcedNothing (result : Except Failure Unit)
  | evaluated (result : Traced Failure UInt64)

namespace Session

def start (profile : SinkProfile) : Session :=
  ⟨.empty, .empty profile⟩

/-- Takes one step; `stamp` is put before each log line of a run. -/
def step (stamp : String) (session : Session) : Step → Answer × Session
  | .set name value => (.none, { session with environment := session.environment.set name value })
  | .unset name => (.none, { session with environment := session.environment.unset name })
  | .load =>
    let (loaded, environment) := Configuration.load session.environment
    (.loaded loaded, { session with environment })
  | .run words =>
    let (outcome, environment) := Program.run stamp words session.environment
    (.ran outcome, { session with environment })
  | .announce n =>
    let (announced, sink) := FactorialCheck.announce n session.sink
    (.announced (announced.mapError .computation), { session with sink })
  | .announceConfigured =>
    let (loaded, environment) := Configuration.load session.environment
    match loaded with
    | .error error =>
      (.announced (.ofExcept (.error (.configuration error))), { session with environment })
    | .ok configuration =>
      let (announced, sink) := FactorialCheck.announce configuration.input session.sink
      (.announced (announced.mapError .computation), { environment, sink })
  | .announceNothing =>
    let (written, sink) := FactorialCheck.announceNothing session.sink
    (.announcedNothing written, { session with sink })
  | .evaluate strategy n => (.evaluated (FactorialCheck.evaluate strategy n), session)

/-- Takes the steps in order, and pairs each answer with the session after it. -/
def steps (stamp : String) : Session → List Step → List (Answer × Session)
  | _, [] => []
  | session, step :: rest =>
    let answered := session.step stamp step
    answered :: steps stamp answered.2 rest

end Session

end FactorialCheck
