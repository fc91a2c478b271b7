/-
This file follows the texts that a repair session takes from its generator.
-/
import DesignScene.Proofs.Review.Structure
import DesignScene.Repair.Session
import DesignScene.Scalar.Exact

namespace DesignScene.RepairSession

variable {α σ : Type} [Scalar α]

/-- The content of the reply to a request for a fix, if one is asked for and no failure comes. -/
def fixReply? (session : RepairSession α σ) (text : String) (state : σ) : Option String :=
  let (result, state) := session.review text state
  (session.repairer result).bind fun generator =>
    if result.fixableErrors.isEmpty then none
    else
      match (generator.complete (fixRequest text result) state).1.outcome with
      | .ok response => some response.content
      | .error _ => none

/-- The text that takes the place of this one after its review, and the state after the reply. -/
def nextText? (session : RepairSession α σ) (text : String) (state : σ) : Option (String × σ) :=
  let (result, state) := session.review text state
  let (fixed, next) := session.askNext text result state
  fixed.map (·, next)

/-- The text after a number of fixes, if so many are taken. -/
def textAfter? (session : RepairSession α σ) : Nat → String → σ → Option (String × σ)
  | 0, text, state => some (text, state)
  | round + 1, text, state =>
      (session.nextText? text state).bind fun (fixed, next) => session.textAfter? round fixed next

variable (session : RepairSession α σ) {text : String} {state : σ}

/-- A text is replaced by the braces of a reply and what stands between them, if that is different. -/
theorem map_fst_nextText? (text : String) (state : σ) :
    (session.nextText? text state).map Prod.fst =
      ((session.fixReply? text state).bind extractJson).filter (· != text) := by
  simp only [nextText?, fixReply?, askNext, askFix]
  cases session.repairer (session.review text state).1 with
  | none => rfl
  | some generator =>
      simp only [Option.bind_some]
      split_ifs
      · rfl
      · cases (generator.complete (fixRequest text (session.review text state).1)
            (session.review text state).2).1.outcome with
        | error failure => rfl
        | ok response =>
            simp only [Option.bind_some, Option.map_map]
            exact Option.map_id'

/-- One round of a session that may take another fix. -/
theorem runFrom_succ (left fixes runs : Nat) (text : String) (state : σ) :
    session.runFrom (left + 1) fixes runs text state =
      match session.askNext text (session.review text state).1 (session.review text state).2 with
      | (some fixed, next) => session.runFrom left (fixes + 1) (runs + 1) fixed next
      | (none, next) => (⟨(session.review text state).1, text, fixes, runs + 1⟩, next) := by
  rfl

/-- Without another text the session ends with this one. -/
theorem runFrom_of_none (left fixes runs : Nat) (last : session.nextText? text state = none) :
    (session.runFrom left fixes runs text state).1 =
      ⟨(session.review text state).1, text, fixes, runs + 1⟩ := by
  cases left with
  | zero => rfl
  | succ left =>
      have kept : (session.askNext text (session.review text state).1
          (session.review text state).2).1 = none := Option.map_eq_none_iff.mp last
      rw [runFrom_succ]
      split
      · next asked =>
          rw [asked] at kept
          cases kept
      · rfl

/-- With another text the session goes on as if it began with that one. -/
theorem runFrom_of_some (left fixes runs : Nat) {fixed : String} {next : σ}
    (taken : session.nextText? text state = some (fixed, next)) :
    session.runFrom (left + 1) fixes runs text state =
      session.runFrom left (fixes + 1) (runs + 1) fixed next := by
  have asked : session.askNext text (session.review text state).1 (session.review text state).2 =
      (some fixed, next) := by
    obtain ⟨given, found, pair⟩ := Option.map_eq_some_iff.mp taken
    cases pair
    exact Prod.ext found rfl
  rw [runFrom_succ, asked]

/-- What is read as a fix comes from the generator of the session. -/
theorem exists_reply_of_fixReply? {content : String}
    (replied : session.fixReply? text state = some content) :
    ∃ generator request before response, session.generator = some generator ∧
      (generator.complete request before).1.outcome = .ok response ∧
        response.content = content := by
  simp only [fixReply?] at replied
  obtain ⟨generator, offered, answered⟩ := Option.bind_eq_some_iff.mp replied
  have present : session.generator = some generator := by
    rw [repairer] at offered
    split_ifs at offered
    exact offered
  split_ifs at answered
  split at answered
  · next response outcome =>
      exact ⟨generator, _, _, response, present, outcome, Option.some.inj answered⟩
  · cases answered

/-- A fault that keeps the layout from being valid and can be repaired is sent to the generator. -/
theorem fixReply?_of_fault {layout : Json} {generator : Generator σ} {issue : Issue}
    (parsed : Json.parse text = some layout) (wanted : session.config.autoFix = true)
    (present : session.generator = some generator)
    (fault : issue ∈ (reviewFindings session.config session.registry layout).filterMap Finding.error?)
    (blocking : issue.severity.isBlocking = true) (fixable : issue.fixable = true) :
    session.fixReply? text state =
      match (generator.complete (fixRequest text (session.review text state).1)
        (session.review text state).2).1.outcome with
      | .ok response => some response.content
      | .error _ => none := by
  have errors : (session.review text state).1.errors =
      (reviewFindings session.config session.registry layout).filterMap Finding.error? :=
    Review.errors_ofText parsed
  rw [← errors] at fault
  have invalid : (session.review text state).1.isValid = false := by
    have blocked : ((session.review text state).1.errors.any (·.severity.isBlocking)) = true :=
      List.any_eq_true.mpr ⟨issue, fault, blocking⟩
    rw [errors] at blocked
    simp [review, Review.ofText, parsed, Review.ofLayout, Review.ofFindings, blocked]
  have available : (session.review text state).1.autoFixAvailable = true := by
    have repairable : ((session.review text state).1.errors.any (·.fixable)) = true :=
      List.any_eq_true.mpr ⟨issue, fault, fixable⟩
    rw [errors] at repairable
    simp [review, Review.ofText, parsed, Review.ofLayout, Review.ofFindings, repairable]
  have listed : (session.review text state).1.fixableErrors.isEmpty = false :=
    List.isEmpty_eq_false_iff.mpr (List.ne_nil_of_mem (List.mem_filter.mpr ⟨fault, fixable⟩))
  have offered : session.repairer (session.review text state).1 = some generator := by
    simp [repairer, invalid, wanted, available, present]
  simp [fixReply?, offered, listed]

/-- A text that is not JSON is left as it is, for its one fault cannot be repaired. -/
theorem nextText?_of_unreadable (unreadable : Json.parse text = none) :
    session.nextText? text state = none := by
  have refused : session.repairer (session.review text state).1 = none := by
    simp [repairer, review, Review.ofText, unreadable, Review.unreadable]
  simp only [nextText?, askNext, refused, Option.map_none]

/-- What stands in the braces of each reply that comes in the first rounds is JSON. -/
def ReadableFixes (rounds : Nat) (text : String) (state : σ) : Prop :=
  ∀ round < rounds, ∀ current next, session.textAfter? round text state = some (current, next) →
    ∀ content, session.fixReply? current next = some content →
      ∀ fixed, extractJson content = some fixed → (Json.parse fixed).isSome = true

/-- Without a further text all fixes are readable. -/
theorem readableFixes_of_none (rounds : Nat) (readable : (Json.parse text).isSome = true)
    (last : session.nextText? text state = none) : session.ReadableFixes rounds text state := by
  intro round _ current next reached content replied fixed found
  cases round with
  | zero =>
      cases reached
      have kept := session.map_fst_nextText? text state
      rw [last, replied, Option.bind_some, found] at kept
      have same : fixed = text := by simpa [bne] using kept.symm
      rw [same, readable]
  | succ round =>
      rw [textAfter?, last] at reached
      cases reached

/-- All fixes are readable if the first one is and all later ones are. -/
theorem readableFixes_succ_iff (rounds : Nat) {fixed : String} {next : σ}
    (taken : session.nextText? text state = some (fixed, next)) :
    session.ReadableFixes (rounds + 1) text state ↔
      (Json.parse fixed).isSome = true ∧ session.ReadableFixes rounds fixed next := by
  have given := session.map_fst_nextText? text state
  rw [taken] at given
  obtain ⟨found, -⟩ := Option.filter_eq_some_iff.mp given.symm
  obtain ⟨content, replied, extracted⟩ := Option.bind_eq_some_iff.mp found
  have later (round : Nat) : session.textAfter? (round + 1) text state =
      session.textAfter? round fixed next := by
    rw [textAfter?, taken, Option.bind_some]
  constructor
  · intro every
    refine ⟨every 0 (Nat.succ_pos _) text state rfl content replied fixed extracted, ?_⟩
    intro round inside current after reached
    exact every (round + 1) (Nat.succ_lt_succ inside) current after ((later round).trans reached)
  · rintro ⟨readable, every⟩ round inside current after reached other otherReplied
    cases round with
    | zero =>
        cases reached
        cases replied.symm.trans otherReplied
        intro otherFixed otherExtracted
        cases extracted.symm.trans otherExtracted
        exact readable
    | succ round =>
        exact every round (Nat.lt_of_succ_lt_succ inside) current after
          ((later round).symm.trans reached) other otherReplied

/-- A session ends with JSON exactly if its fixes are, because nothing follows a text that is not. -/
theorem readable_runFrom_iff (left fixes runs : Nat)
    (readable : (Json.parse text).isSome = true) :
    (Json.parse (session.runFrom left fixes runs text state).1.finalText).isSome = true ↔
      session.ReadableFixes left text state := by
  induction left generalizing fixes runs text state with
  | zero =>
      refine iff_of_true readable ?_
      intro round inside
      exact absurd inside (Nat.not_lt_zero round)
  | succ left ih =>
      cases taken : session.nextText? text state with
      | none =>
          rw [session.runFrom_of_none _ _ _ taken]
          exact iff_of_true readable (session.readableFixes_of_none _ readable taken)
      | some pair =>
          obtain ⟨fixed, next⟩ := pair
          rw [session.runFrom_of_some _ _ _ taken, session.readableFixes_succ_iff _ taken]
          cases parsed : Json.parse fixed with
          | some layout =>
              rw [ih _ _ (by rw [parsed]; rfl)]
              simp
          | none =>
              rw [session.runFrom_of_none _ _ _ (session.nextText?_of_unreadable parsed)]
              simp [parsed]

/-- The session ends with JSON exactly if what stands in the braces of every fix is JSON. -/
theorem readable_finalText_iff (state : σ) (readable : (Json.parse text).isSome = true) :
    (Json.parse (session.run text state).1.finalText).isSome = true ↔
      session.ReadableFixes session.config.maxRetries text state :=
  session.readable_runFrom_iff _ _ _ readable

/-- A session that repairs with the standard settings and always receives the same reply. -/
def constantReply (content : String) : RepairSession Rat Unit where
  config := ReviewConfig.standard
  generator := some ⟨fun _ state => (⟨0, .ok ⟨content, 0⟩⟩, state)⟩

/-- A button without an identifier. -/
def openButtonText : String := "\x7b\"items\":[\x7b\"type\":\"button\"\x7d]\x7d"

theorem parse_openButtonText :
    Json.parse openButtonText =
      some (.object [("items", .array [.object [("type", .string "button")]])]) := by
  simp only [openButtonText, Json.parse, Json.readText, String.reduceToList]
  rfl

/-- The missing identifier is sent to the generator. -/
theorem fixReply?_constantReply (content : String) :
    (constantReply content).fixReply? openButtonText () = some content := by
  have errors : (reviewFindings (ReviewConfig.standard : ReviewConfig Rat) none
      (.object [("items", .array [.object [("type", .string "button")]])])).filterMap
        Finding.error? =
        [⟨"MISSING_COMPONENT_ID", "Non-native items must have a componentNodeId",
          "items[0].componentNodeId", .high, true, none⟩] := by
    simp only [reviewFindings, ReviewConfig.standard]
    decide
  exact (constantReply content).fixReply?_of_fault parse_openButtonText rfl rfl
    (errors ▸ List.mem_singleton.mpr rfl) rfl rfl

/-- A reply that has an object among a few words is taken. -/
theorem readable_finalText_wrapped_object :
    (Json.parse
      ((constantReply "Sure: \x7b\"items\":[]\x7d").run openButtonText ()).1.finalText).isSome =
        true := by
  have readable : (Json.parse openButtonText).isSome = true := by rw [parse_openButtonText]; rfl
  have braces : extractJson "Sure: \x7b\"items\":[]\x7d" = some "\x7b\"items\":[]\x7d" := by decide
  have object : Json.parse "\x7b\"items\":[]\x7d" = some (.object [("items", .array [])]) := by
    simp only [Json.parse, Json.readText, String.reduceToList]
    rfl
  refine ((constantReply _).readable_finalText_iff () readable).mpr ?_
  intro round _ current next _ content replied fixed extracted
  obtain ⟨generator, request, before, response, present, outcome, rfl⟩ :=
    (constantReply _).exists_reply_of_fixReply? replied
  cases present
  cases outcome
  cases braces.symm.trans extracted
  rw [object, Option.isSome_some]

/-- A word in braces is taken as well, and the session ends with it. -/
theorem word_in_braces_taken :
    ¬∀ (session : RepairSession Rat Unit) (text : String), (Json.parse text).isSome = true →
        (Json.parse (session.run text ()).1.finalText).isSome = true := by
  intro every
  have readable : (Json.parse openButtonText).isSome = true := by rw [parse_openButtonText]; rfl
  have unreadable : Json.parse "\x7boops\x7d" = none := by
    simp only [Json.parse, Json.readText, String.reduceToList]
    rfl
  have fixes := every (constantReply "\x7boops\x7d") openButtonText readable
  rw [run, readable_runFrom_iff _ _ _ _ readable] at fixes
  have taken := fixes 0 (Nat.succ_pos 1) openButtonText () rfl _ (fixReply?_constantReply _)
    "\x7boops\x7d" (by decide)
  rw [unreadable] at taken
  cases taken

end DesignScene.RepairSession
