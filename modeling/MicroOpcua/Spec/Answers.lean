import MicroOpcua.Core.AnswerLaws
import MicroOpcua.Spec.Publishing

namespace MicroOpcua

open EngineScript Lib.StateRun

variable {W A : Type} {b : Build} {c : Config W} {s : Ctx W A} {sub : Subscription}

/-- A turn that takes no request out of the queue writes nothing; one that takes a request out answers
it. -/
def TurnAnswers (sessionId : UInt32) (s t : Ctx W A) : Prop :=
  (t.shared.subs.publishQueue = s.shared.subs.publishQueue ∧ t.trace = s.trace) ∨
    ∃ r queue, publishRequestDequeue s.shared.subs.publishQueue sessionId = some (r, queue) ∧
      t.shared.subs.publishQueue = queue ∧ AnsweredOnce r s t

theorem publishAnswer_answers {sent : Sent W} (hsent : sent.Frames)
    (hsend : minChunkSize ≤ c.sendBufferSize) (hwritable : c.Writable) (hconn : s.conn.CanSend b c)
    {includeData : Bool}
    (hreport : ReportEncodable s.shared.subs.items.monitoredItems sub includeData) (n : Nat) :
    TurnAnswers sub.sessionId s ((publishAnswer b c includeData n sent sub).run s).2 := by
  cases hr : publishRequestDequeue s.shared.subs.publishQueue sub.sessionId with
  | none =>
    rw [publishAnswer_none hr]
    exact .inl ⟨rfl, rfl⟩
  | some p =>
    obtain ⟨r, queue⟩ := p
    have hreport' : ReportEncodable s.shared.subs.items.monitoredItems sub.numbered includeData :=
      ⟨hreport.items, hreport.events⟩
    have hanswered := Ctx.answer_answers hsend hwritable hconn hreport' r queue n
    have hqueue :=
      congrArg Subscriptions.publishQueue (s.answer_shared b c sub.numbered r queue includeData n)
    cases hanswer : s.answer b c sub.numbered r queue includeData n with
    | mk accepted u =>
      rw [hanswer] at hanswered hqueue
      rw [publishAnswer_some hr hanswer]
      cases accepted with
      | false => exact .inr ⟨r, queue, hr, hqueue, hanswered⟩
      | true => exact .inr ⟨r, queue, hr, (hsent.publishQueue ..).trans hqueue, hanswered⟩

theorem publishKeepAlive_answers (hsend : minChunkSize ≤ c.sendBufferSize) (hwritable : c.Writable)
    (hconn : s.conn.CanSend b c) : TurnAnswers sub.sessionId s ((publishKeepAlive b c sub).run s).2 := by
  by_cases hwaits : sub.counted.keepAliveCounter < sub.maxKeepAliveCount
  · rw [publishKeepAlive_waits hwaits]
    exact .inl ⟨rfl, rfl⟩
  · rw [publishKeepAlive_due hwaits]
    have hreport : ReportEncodable s.shared.subs.items.monitoredItems sub.counted false := ⟨nofun, nofun⟩
    exact publishAnswer_answers sentKeepAlive_frames hsend hwritable hconn hreport 0

theorem publishBranch_answers (hsend : minChunkSize ≤ c.sendBufferSize) (hwritable : c.Writable)
    (hconn : s.conn.CanSend b c) (hreport : ReportEncodable s.shared.subs.items.monitoredItems sub true)
    (n : Nat) :
    TurnAnswers sub.sessionId s ((publishBranch b c sub n).run s).2 := by
  unfold publishBranch
  split
  · exact publishAnswer_answers (sentData_frames n) hsend hwritable hconn hreport n
  · exact publishKeepAlive_answers hsend hwritable hconn

namespace EngineScript

def config : Config Unit := Script.configOn Script.quietPlatform 10 8192 none

def ctx (ops : List (EngineOp Unit)) : Ctx Unit Unit where
  shared := ⟨[], List.replicate build.maxSessions .init, after ops, ()⟩
  conn := { Connection.empty 0 with clientHandle := some 1 }
  world := ()
  trace := []

end EngineScript

/-- An item in Reporting mode on a variable whose read callback returns a string of 4097 bytes. -/
def longString : List (EngineOp Unit) :=
  [subscribe 0,
    monitorNode 2 10
    ⟨some (.callback fun _ => pure (good, .scalar (.string (some (List.replicate 4097 65)))))⟩,
    park 7]

end MicroOpcua
