import HotelBooking.Proofs.Client.Relaying
import HotelBooking.Proofs.Loyalty

/-!
# Reading back what was saved over HTTP

A loyalty record is sent with the name of its guest twice, in a header and in the body. Who
saves it takes the name from the header or else from the body; who looks it up has only the
header. A header may carry any text without control characters, but only plain characters are
heard. So a record with any other character in its name is saved, and cannot be found again.
-/

namespace HotelBooking

open Http

namespace Call

variable {base : ServiceName → String} {fresh : Uid} {s : Stores} {l : Loyalty} {name : String}

/-- Over HTTP a record is saved as it is in process, whether its name is heard or not. -/
theorem perform_updateLoyalty (server : IsServer (base .loyalty))
    (named : Text.isBlankText l.username = false) (sendable : IsSendable l.username) :
    ((updateLoyalty l).overHttp base (reliable fresh)).perform s =
      (.ok (s.savedLoyalty l.recompute), s.saveLoyalty l.recompute) := by
  have told : ∀ name, (updateLoyalty l).onBehalfOf? = some name → IsSendable name := by
    rintro _ ⟨⟩
    exact sendable
  have answer : Stores.respond .loyalty fresh (updateLoyalty l).asked s =
      ((updateLoyalty l).reply (s.savedLoyalty l.recompute), s.saveLoyalty l.recompute) := by
    rw [respond_loyalty (answeredBy_updateLoyalty sendable) rfl,
      served_updateLoyalty_of_named fresh s named, Response.ofOutcome]
  rw [perform_asked server told]
  change (interpret _ (some (Stores.respond .loyalty fresh (updateLoyalty l).asked s).1.delivered),
    (Stores.respond .loyalty fresh (updateLoyalty l).asked s).2) = _
  rw [answer, interpret_reply]

/-- Over HTTP a record is looked up under what is heard of the name. -/
theorem perform_getLoyalty (server : IsServer (base .loyalty)) (sendable : IsSendable name) :
    ((getLoyalty name).overHttp base (reliable fresh)).perform s =
      (foundOr (Loyalty.label name) (s.loyalty? (heard name)), s) := by
  have told : ∀ guest, (getLoyalty name).onBehalfOf? = some guest → IsSendable guest := by
    rintro _ ⟨⟩
    exact sendable
  have answer : Stores.respond .loyalty fresh (getLoyalty name).asked s =
      (.ofOutcome (getLoyalty name).reply
        (foundOr (Loyalty.label (heard name)) (s.loyalty? (heard name))), s) := by
    have looked := served_getLoyalty fresh s (heard name)
    rw [served, serve, Stores.perform_onLoyalty] at looked
    simp only [Stores.respond, answeredBy_getLoyalty sendable s.loyalty]
    exact congrArg (fun answer : Outcome Loyalty × Stores =>
      (Response.ofOutcome (getLoyalty name).reply answer.1, answer.2)) looked
  rw [perform_asked server told]
  change (interpret _ (some (Stores.respond .loyalty fresh (getLoyalty name).asked s).1.delivered),
    (Stores.respond .loyalty fresh (getLoyalty name).asked s).2) = _
  rw [answer]
  cases s.loyalty? (heard name) with
  | none => rfl
  | some l => rw [foundOr, foundOr, Response.ofOutcome, interpret_reply]

/-- A record that is saved over HTTP has its name, and it is read back over HTTP exactly if the
name is visible ASCII, with blanks and tabs at most. -/
theorem read_back_iff (server : IsServer (base .loyalty))
    (named : Text.isBlankText l.username = false) (sendable : IsSendable l.username)
    (fresh fresh' : Uid) (s : Stores) :
    ∃ saved s', ((updateLoyalty l).overHttp base (reliable fresh)).perform s = (.ok saved, s') ∧
      saved.username = l.username ∧
      (((getLoyalty l.username).overHttp base (reliable fresh')).perform s' = (.ok saved, s') ↔
        l.username.toList.all isPlainChar) := by
  have own : (s.savedLoyalty l.recompute).username = l.username := Stores.username_savedLoyalty _
  refine ⟨_, _, perform_updateLoyalty server named sendable, own, ?_⟩
  rw [perform_getLoyalty server sendable]
  constructor
  · intro read
    by_contra beyond
    -- What was found instead is the record of the empty name.
    rw [heard, if_neg beyond] at read
    have found := eq_some_of_foundOr (Prod.ext_iff.mp read).1
    have nameless := Stores.username_of_loyalty? found
    rw [← own, nameless] at named
    cases named
  · intro plain
    have found := Stores.loyalty?_saveLoyalty_self (s := s) l.recompute
    rw [Loyalty.username_recompute] at found
    rw [heard, if_pos plain, found]
    rfl

/-- Ada is read back. -/
theorem ada_read_back :
    let base : ServiceName → String := fun _ => "http://localhost:8060/"
    let ada : Loyalty := ⟨0, "Ada Lovelace", 3, .gold, 0⟩
    IsServer (base .loyalty) ∧ Text.isBlankText ada.username = false ∧ IsSendable ada.username ∧
      ∃ saved s', ((updateLoyalty ada).overHttp base (reliable .nil)).perform {} = (.ok saved, s') ∧
        saved.username = "Ada Lovelace" ∧
        ((getLoyalty "Ada Lovelace").overHttp base (reliable .nil)).perform s' =
          (.ok saved, s') := by
  intro base ada
  have server : IsServer (base .loyalty) := ⟨by decide +kernel, by decide⟩
  have named : Text.isBlankText ada.username = false := by decide +kernel
  have sendable : IsSendable ada.username := ⟨by decide +kernel, by decide⟩
  obtain ⟨saved, s', update, own, read⟩ := read_back_iff server named sendable .nil .nil {}
  exact ⟨server, named, sendable, saved, s', update, own, read.mpr (by decide)⟩

/-- Anna writes her name in Cyrillic letters: her record is saved, and then nobody knows of it. -/
theorem anna_not_read_back :
    let base : ServiceName → String := fun _ => "http://localhost:8060/"
    let anna : Loyalty := ⟨0, "Анна", 3, .bronze, 5⟩
    Text.isBlankText anna.username = false ∧ Text.trim anna.username = anna.username ∧
      isHeaderValue anna.username ∧
      ∃ s', ((updateLoyalty anna).overHttp base (reliable .nil)).perform {} =
          (.ok { anna with id := 1 }, s') ∧
        ((getLoyalty "Анна").overHttp base (reliable .nil)).perform s' =
          (.error (.notFound "loyalty of Анна"), s') := by
  intro base anna
  have server : IsServer (base .loyalty) := ⟨by decide +kernel, by decide⟩
  have named : Text.isBlankText anna.username = false := by decide +kernel
  have sendable : IsSendable anna.username := ⟨by decide +kernel, by decide⟩
  refine ⟨named, sendable.trimmed, sendable.allowed, Stores.saveLoyalty {} anna.recompute, ?_, ?_⟩
  · rw [perform_updateLoyalty server named sendable]
    decide +kernel
  · rw [perform_getLoyalty server sendable]
    decide +kernel

end Call

end HotelBooking
