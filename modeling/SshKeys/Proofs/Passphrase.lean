import SshKeys.Passphrase
import SshKeys.Proofs.Diagnostics

/-! # The adapter of callbacks

Whether the adapter calls the callback is settled before: it does unless the stream of the session
breaks over the notice. Called or not, the session has been told.
-/

namespace SshKeys

open Session (Unbroken)

namespace Bytes

@[simp] theorem length_zeros (count : Nat) : (zeros count).length = count :=
  List.length_replicate

theorem burn_eq_zeros (bytes : Bytes) : burn bytes = zeros bytes.length :=
  List.map_const'

end Bytes

namespace Passphrase

variable {session : Option Session}

theorem bounded_between {size : Int} (room : 0 ≤ size) (answer : Option Int) :
    0 ≤ bounded size answer ∧ bounded size answer ≤ size := by
  cases answer with
  | none => exact ⟨Int.le_refl 0, room⟩
  | some n =>
      unfold bounded
      split <;> omega

theorem bounded_of_nonpositive {answer : Option Int} (nonpositive : ∀ n, answer = some n → n ≤ 0)
    (size : Int) : bounded size answer = 0 := by
  cases answer with
  | none => rfl
  | some n => exact if_pos (nonpositive n rfl)

theorem viaCallback_session (c : Callback) (session : Option Session) (buffer : Bytes)
    (size : Int) :
    (viaCallback c session buffer size).session =
      (Session.reportTo session .debug2 callMessage).1 := by
  unfold viaCallback
  split <;> next told => rw [told]

theorem viaCallback_of_told (told : (Session.reportTo session .debug2 callMessage).2 = none)
    (c : Callback) (buffer : Bytes) (size : Int) :
    viaCallback c session buffer size =
      { count := (c.ask callbackPrompt (Bytes.zeros buffer.length) size).count.map fun answer =>
          some (bounded size answer)
        buffer := (c.ask callbackPrompt (Bytes.zeros buffer.length) size).buffer
        session := (Session.reportTo session .debug2 callMessage).1
        interactions := [.callback c.label callbackPrompt (Bytes.zeros buffer.length) size] } := by
  unfold viaCallback
  split
  · next failed => cases (congrArg Prod.snd failed).symm.trans told
  · next reported => rw [reported, Bytes.burn_eq_zeros]

theorem viaCallback_of_unbroken (unbroken : Unbroken session) (c : Callback) (buffer : Bytes)
    (size : Int) :
    viaCallback c session buffer size =
      { count := (c.ask callbackPrompt (Bytes.zeros buffer.length) size).count.map fun answer =>
          some (bounded size answer)
        buffer := (c.ask callbackPrompt (Bytes.zeros buffer.length) size).buffer
        session := (Session.reportTo session .debug2 callMessage).1
        interactions := [.callback c.label callbackPrompt (Bytes.zeros buffer.length) size] } :=
  viaCallback_of_told (unbroken.reportTo_fault .debug2 callMessage) c buffer size

theorem viaCallback_of_untold {fault : Fault}
    (untold : (Session.reportTo session .debug2 callMessage).2 = some fault) (c : Callback)
    (buffer : Bytes) (size : Int) :
    viaCallback c session buffer size =
      { count := .error fault, buffer := buffer
        session := (Session.reportTo session .debug2 callMessage).1, interactions := [] } := by
  unfold viaCallback
  split
  · next failed =>
      cases (congrArg Prod.snd failed).symm.trans untold
      rw [failed]
  · next reported => cases (congrArg Prod.snd reported).symm.trans untold

end Passphrase

end SshKeys
