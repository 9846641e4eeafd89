import CrazyIvan.App.EventStream
import CrazyIvan.App.Forwarding

/-!
The loop of the event stream on the datagrams it receives.

Whether the run of a sender throws is decided by the datagram. On a thread of the
pool an exception is absorbed; where the pool refuses the sender, the loop runs it
itself, in the handler of the refusal, and leaves with the exception.

* `loopStep`: one datagram, with what the cache holds when it is processed.
* `Continues`: what happens leaves the loop listening, unless it is the end of the
  application.
* `continues_iff_contained`: the runs along which the loop stops only with the
  application.
-/

namespace CrazyIvan

open Resumption

/-- What happens to the loop: a datagram with its processing, on a thread of the
pool if it is taken; the end of the run of a sender; the end of the application. -/
inductive LoopEvent where
  | datagram (cfg : SenderConfig) (cache : String → Option (List Endpoint)) (event : String)
      (taken : Bool)
  | finish (sender : ℕ)
  | stop

/-- The processing returns, does not return but throws, or has no meaning. -/
def returns (r : Except Fail (List (UdpEndpoint × String))) : Option Bool :=
  match r with
  | .ok _ => some true
  | .error (.exn _) => some false
  | .error .undefined => none

/-- The loop after what happens; nothing is received once it has stopped. -/
def loopStep (s : EventStream String) : LoopEvent → Option (EventStream String)
  | .datagram cfg cache event taken =>
      if s.listening then do
        let back ← returns (runSender cfg cache event)
        s.receive event (if taken then .started else .refused back)
      else some s
  | .finish p => some (s.finish p)
  | .stop => if s.listening then s.shutdown else some s

/-- The loop goes on, unless the application has ended. -/
def Continues (s : EventStream String) (e : LoopEvent) : Prop :=
  s.listening = true → e = .stop ∨ ∃ t, loopStep s e = some t ∧ t.listening = true

/-- A datagram finds room in the ring, its processing has a meaning, and does not
throw where the loop does it. -/
def Contained (s : EventStream String) : LoopEvent → Prop
  | .datagram cfg cache event taken => s.listening = true →
      s.senderIndex < 12 ∧ ∃ back, returns (runSender cfg cache event) = some back ∧
        (taken = false → back = true)
  | .finish _ => True
  | .stop => True

/-- The ring is kept by the loop. -/
lemma ring_loopStep {s t : EventStream String} (h : s.Ring) {e : LoopEvent}
    (hstep : loopStep s e = some t) : t.Ring := by
  -- Whatever has a next state was orderly, and is a step of the ring.
  have hring : ∀ r, s.step r = some t → t.Ring := by
    intro r hr
    obtain ⟨t', ht', -, hring⟩ := EventStream.exists_step h r (EventStream.orderly_of_step h hr)
    obtain rfl : t = t' := Option.some.inj (hr.symm.trans ht')
    exact hring
  cases e with
  | datagram cfg cache event taken =>
      rw [loopStep] at hstep
      split at hstep
      · next hopen =>
          obtain ⟨back, -, hreceive⟩ := Option.bind_eq_some_iff.mp hstep
          exact hring (.receive event _) ((if_pos hopen).trans hreceive)
      · exact Option.some.inj hstep ▸ h
  | finish p => exact hring (.finish p) hstep
  | stop => exact hring .shutdown hstep

lemma listening_shutdown {s t : EventStream String} (h : s.shutdown = some t) :
    t.listening = false := by
  obtain ⟨heap, -, ht⟩ := Option.bind_eq_some_iff.mp h
  rw [← Option.some.inj ht]

/-- One step. -/
lemma continues_iff {s : EventStream String} (h : s.Ring) (e : LoopEvent) :
    Continues s e ↔ Contained s e := by
  cases e with
  | finish p => exact iff_of_true (fun hopen => .inr ⟨_, rfl, hopen⟩) trivial
  | stop => exact iff_of_true (fun _ => .inl rfl) trivial
  | datagram cfg cache event taken =>
      refine forall_congr' fun hopen => ?_
      have hloop : loopStep s (.datagram cfg cache event taken) =
          (returns (runSender cfg cache event)).bind fun back =>
            s.receive event (if taken then .started else .refused back) := if_pos hopen
      rw [hloop]
      constructor
      · rintro (hstop | ⟨t, ht, hlisten⟩)
        · cases hstop
        obtain ⟨back, hback, hreceive⟩ := Option.bind_eq_some_iff.mp ht
        have hroom : s.senderIndex < 12 :=
          (EventStream.orderly_of_step h (r := .receive event _)
            ((if_pos hopen).trans hreceive) hopen).1
        refine ⟨hroom, back, hback, fun htaken => ?_⟩
        by_contra hthrows
        have hfalse : back = false := by simpa using hthrows
        rw [htaken, hfalse] at hreceive
        obtain ⟨heap, -, heq⟩ := h.receive_eq hopen hroom event
        rw [heq] at hreceive
        rw [listening_shutdown hreceive] at hlisten
        cases hlisten
      · rintro ⟨hroom, back, hback, hreturns⟩
        obtain ⟨heap, -, heq⟩ := h.receive_eq hopen hroom event
        rw [hback, Option.bind_some, heq]
        cases taken with
        | true => exact .inr ⟨_, rfl, hopen⟩
        | false =>
            rw [hreturns rfl]
            exact .inr ⟨_, rfl, hopen⟩

/-- The runs along which the loop stops only with the application: those in which
every datagram that is received finds room in the ring and is processed with a
meaning, and none that the pool refuses makes its sender throw. -/
theorem continues_iff_contained (es : List LoopEvent) :
    Admitted loopStep Continues {} es ↔ Admitted loopStep Contained {} es :=
  admitted_congr (I := EventStream.Ring) (fun _ _ _ h hstep => ring_loopStep h hstep)
    (fun _ e h => continues_iff h e) EventStream.ring_start es

/-- A datagram for a scene that is not in the cache, with no thread left. -/
theorem not_continues_unknown :
    ¬ Admitted loopStep Continues {}
      [.datagram { fromString := fun _ => none } (fun _ => none) "lobby" false] := by
  rintro ⟨hcontinues, -⟩
  have hrun : runSender { fromString := fun _ => none } (fun _ => none) "lobby"
      = .error (.exn "Unknown Key") := by
    rw [runSender_line rfl (by simp) (by decide)]
    decide
  obtain ⟨-, back, hback, hreturns⟩ := (continues_iff EventStream.ring_start _).mp hcontinues rfl
  rw [hrun, hreturns rfl] at hback
  cases hback

end CrazyIvan
