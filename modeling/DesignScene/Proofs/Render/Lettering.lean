/-
This file shows that a text is written only after its fonts have loaded, and that a text whose font is
missing keeps what the blueprint says.
-/
import DesignScene.Proofs.Render.Copies
import DesignScene.Render.Scene

namespace DesignScene

open Outlines

/-- What a text node shows, and the fonts that it lists. -/
structure Lettering where
  characters : String
  fonts : List FontName

def NodeKind.lettering? {α : Type} : NodeKind α → Option Lettering
  | .text props => some ⟨props.characters, props.fonts⟩
  | _ => none

def BlueprintKind.lettering? {α : Type} : BlueprintKind α → Option Lettering
  | .text characters fonts _ _ => some ⟨characters, fonts⟩
  | _ => none

def SceneGraph.lettering? {α : Type} (graph : SceneGraph α) (id : Nat) : Option Lettering :=
  (graph.node? id).bind fun node => node.kind.lettering?

/-- What can happen to the texts of a scene: a question to the host, or a text that is written. -/
inductive TextEvent where
  | font (font : FontName)
  | paintStyle (name : String)
  | textStyle (name : String)
  | icon (reference : String)
  | component (instanceId : Nat) (componentId : String)
  | writing (id : Nat) (lettering : Lettering)

/-- The host is asked for nothing that brings texts, and no text is written. -/
def TextEvent.isPlain : TextEvent → Bool
  | component .. => false
  | writing .. => false
  | _ => true

/-- The texts of a scene beside the state of the host. -/
structure TextSheet (σ : Type) where
  hostState : σ
  lettering? : Nat → Option Lettering

/-- The texts with those of a blueprint behind its instance. -/
def Blueprint.letter {α : Type} (blueprint : Blueprint α) (instanceId : Nat)
    (letterings : Nat → Option Lettering) (place : Nat) : Option Lettering :=
  if place ≤ instanceId then letterings place
  else
    (blueprint.walk[place - (instanceId + 1)]?).elim (letterings place) fun node =>
      node.kind.lettering?

namespace TextSheet

variable {α σ : Type} (host : Host α σ)

def follow (sheet : TextSheet σ) : TextEvent → TextSheet σ
  | .font font => { sheet with hostState := (host.loadFont font sheet.hostState).2 }
  | .paintStyle name => { sheet with hostState := (host.paintStyle name sheet.hostState).2 }
  | .textStyle name => { sheet with hostState := (host.textStyle name sheet.hostState).2 }
  | .icon reference => { sheet with hostState := (host.icon reference sheet.hostState).2 }
  | .component instanceId componentId =>
      match host.blueprint componentId sheet.hostState with
      | (.ok (some blueprint), hostState) =>
          ⟨hostState, blueprint.letter instanceId sheet.lettering?⟩
      | (_, hostState) => { sheet with hostState := hostState }
  | .writing id lettering =>
      { sheet with
        lettering? := fun place => if place = id then some lettering else sheet.lettering? place }

/-- What is on the sheet after all of this has happened. -/
def replay (sheet : TextSheet σ) (events : List TextEvent) : TextSheet σ :=
  events.foldl (follow host) sheet

/-- The font was asked for since a text last changed, and it loaded. -/
def Loaded (sheet : TextSheet σ) (events : List TextEvent) (font : FontName) : Prop :=
  ∃ before after, events = before ++ .font font :: after ∧
    (∀ event ∈ after, event.isPlain = true) ∧
    (host.loadFont font (sheet.replay host before).hostState).1 = .ok ()

/-- Right before a text is written, all fonts that it will list were asked for and loaded. -/
def Lawful (sheet : TextSheet σ) (events : List TextEvent) : Prop :=
  ∀ {before after : List TextEvent} {id : Nat} {lettering : Lettering},
    events = before ++ .writing id lettering :: after →
      ∀ font ∈ lettering.fonts, sheet.Loaded host before font

variable {host} {sheet next : TextSheet σ} {events more : List TextEvent}

/-- Events in a row are replayed one after the other. -/
theorem replay_append : sheet.replay host (events ++ more) = (sheet.replay host events).replay host more :=
  List.foldl_append

/-- An event of two runs is one of the first or one of the second. -/
theorem split_append {before after : List TextEvent} {event : TextEvent}
    (split : events ++ more = before ++ event :: after) :
    (∃ rest, events = before ++ event :: rest) ∨
      ∃ rest, before = events ++ rest ∧ more = rest ++ event :: after := by
  rcases List.append_eq_append_iff.mp split with ⟨rest, inMore, follows⟩ | ⟨rest, inFirst, follows⟩
  · exact .inr ⟨rest, inMore, follows⟩
  · cases rest with
    | nil => exact .inr ⟨[], by simpa using inFirst.symm, follows.symm⟩
    | cons first rest =>
        obtain ⟨rfl, -⟩ := List.cons_eq_cons.mp follows
        exact .inl ⟨rest, inFirst⟩

/-- A font loaded later was loaded in the whole run too. -/
theorem Loaded.after (led : sheet.replay host events = next) {font : FontName}
    (loaded : next.Loaded host more font) : sheet.Loaded host (events ++ more) font := by
  obtain ⟨before, after, rfl, plain, succeeds⟩ := loaded
  refine ⟨events ++ before, after, by rw [List.append_assoc], plain, ?_⟩
  rwa [replay_append, led]

/-- Further questions to the host do no harm. -/
theorem Loaded.append_plain {font : FontName} (loaded : sheet.Loaded host events font)
    (plain : ∀ event ∈ more, event.isPlain = true) : sheet.Loaded host (events ++ more) font := by
  obtain ⟨before, after, rfl, plainAfter, succeeds⟩ := loaded
  refine ⟨before, after ++ more, by simp, fun event member => ?_, succeeds⟩
  rcases List.mem_append.mp member with early | late
  · exact plainAfter event early
  · exact plain event late

end TextSheet

namespace Stage

variable {α σ : Type}

def sheet (stage : Stage α σ) : TextSheet σ := ⟨stage.hostState, stage.graph.lettering?⟩

/-- The host was asked, and nothing else happened but perhaps a report. -/
structure Asks (host : Host α σ) (stage : Stage α σ) (events : List TextEvent)
    (later : Stage α σ) : Prop where
  replay_eq : stage.sheet.replay host events = later.sheet
  plain : ∀ event ∈ events, event.isPlain = true
  graph_eq : later.graph = stage.graph
  missingFonts_eq : later.missingFonts = stage.missingFonts

/-- The events lead from the texts of one stage to those of a later one, written with loaded fonts. -/
structure Recounts (host : Host α σ) (stage : Stage α σ) (events : List TextEvent)
    (later : Stage α σ) : Prop where
  replay_eq : stage.sheet.replay host events = later.sheet
  lawful : stage.sheet.Lawful host events
  size_le : stage.graph.size ≤ later.graph.size
  spared : ∀ id ∈ stage.missingFonts, id < stage.graph.size →
    id ∈ later.missingFonts ∧ later.graph.lettering? id = stage.graph.lettering? id
  copied : ∀ {before after : List TextEvent} {instanceId : Nat} {componentId : String}
    {blueprint : Blueprint α}, events = before ++ .component instanceId componentId :: after →
      (host.blueprint componentId (stage.sheet.replay host before).hostState).1 =
          .ok (some blueprint) →
        ∀ {index : Nat} {node : BlueprintNode α}, blueprint.walk[index]? = some node →
          lacksFont node.kind = true →
            instanceId + 1 + index ∈ later.missingFonts ∧
              instanceId + 1 + index < later.graph.size ∧
                later.graph.lettering? (instanceId + 1 + index) = node.kind.lettering?

section Asking

variable {host : Host α σ} {stage next later : Stage α σ} {events more : List TextEvent}

namespace Asks

theorem refl (host : Host α σ) (stage : Stage α σ) : Asks host stage [] stage :=
  ⟨rfl, nofun, rfl, rfl⟩

theorem trans (first : Asks host stage events next) (second : Asks host next more later) :
    Asks host stage (events ++ more) later where
  replay_eq := by rw [TextSheet.replay_append, first.replay_eq, second.replay_eq]
  plain event member := by
    rcases List.mem_append.mp member with early | late
    · exact first.plain event early
    · exact second.plain event late
  graph_eq := second.graph_eq.trans first.graph_eq
  missingFonts_eq := second.missingFonts_eq.trans first.missingFonts_eq

/-- A warning adds no event. -/
theorem warn (asks : Asks host stage events next) (path message : String) :
    Asks host stage events (next.warn path message) :=
  ⟨asks.replay_eq, asks.plain, asks.graph_eq, asks.missingFonts_eq⟩

/-- One question, which an event stands for. -/
theorem ask (stage : Stage α σ) {β : Type} (question : σ → β × σ) {event : TextEvent}
    (followed : ∀ sheet : TextSheet σ,
      sheet.follow host event = { sheet with hostState := (question sheet.hostState).2 })
    (plain : event.isPlain = true) : Asks host stage [event] (stage.ask question).2 where
  replay_eq := followed stage.sheet
  plain other member := by rwa [List.mem_singleton.mp member]
  graph_eq := rfl
  missingFonts_eq := rfl

/-- Questions alone are an account. -/
theorem recounts (asks : Asks host stage events later) : Recounts host stage events later where
  replay_eq := asks.replay_eq
  lawful split := by
    have plain := asks.plain _ (split ▸ List.mem_append_cons_self)
    cases plain
  size_le := Nat.le_of_eq (congrArg SceneGraph.size asks.graph_eq.symm)
  spared id noted _ := by
    rw [asks.missingFonts_eq, asks.graph_eq]
    exact ⟨noted, rfl⟩
  copied split := by
    have plain := asks.plain _ (split ▸ List.mem_append_cons_self)
    cases plain

end Asks

/-- Every font of a list is asked for, and if no failure is reported, each of them has loaded. -/
theorem asks_loadAll (host : Host α σ) (fonts : List FontName) (stage : Stage α σ) :
    Asks host stage (fonts.map .font) (loadAll host fonts stage).2 ∧
      ((loadAll host fonts stage).1 = .ok () →
        ∀ font ∈ fonts, stage.sheet.Loaded host (fonts.map .font) font) := by
  induction fonts generalizing stage with
  | nil => exact ⟨.refl host stage, nofun⟩
  | cons font more ih =>
      have first : Asks host stage [.font font] (stage.ask (host.loadFont font)).2 :=
        .ask stage _ (fun _ => rfl) rfl
      obtain ⟨others, loaded⟩ := ih (stage.ask (host.loadFont font)).2
      refine ⟨first.trans others, fun succeeds other member => ?_⟩
      simp only [loadAll] at succeeds
      cases answer : (stage.ask (host.loadFont font)).1 with
      | error error =>
          rw [answer] at succeeds
          cases succeeds
      | ok _ =>
          rw [answer] at succeeds
          rcases List.mem_cons.mp member with rfl | later
          · refine ⟨[], more.map .font, rfl, fun event listed => ?_, answer⟩
            obtain ⟨_, -, rfl⟩ := List.mem_map.mp listed
            rfl
          · exact (loaded succeeds other later).after first.replay_eq

/-- The fonts that are given back have loaded. -/
theorem asks_loadFonts (context : RenderContext α σ) (fonts : List FontName)
    (stage : Stage α σ) :
    ∃ events, Asks context.host stage events (stage.loadFonts context fonts).2 ∧
      ∀ {given : List FontName}, (stage.loadFonts context fonts).1 = .ok given →
        ∀ font ∈ given, stage.sheet.Loaded context.host events font := by
  obtain ⟨asks, loaded⟩ := asks_loadAll context.host (distinct fonts) stage
  rw [loadFonts]
  generalize loadAll context.host (distinct fonts) stage = result at asks loaded
  obtain ⟨outcome | _, next⟩ := result
  · have fallback : Asks context.host next [.font context.config.render.defaultFont]
        (next.ask (context.host.loadFont context.config.render.defaultFont)).2 :=
      .ask next _ (fun _ => rfl) rfl
    refine ⟨_, asks.trans fallback, fun {given} answered font member => ?_⟩
    simp only [Except.map] at answered
    split at answered
    · cases answered
    · next succeeds =>
        cases answered
        rw [List.mem_singleton.mp member]
        exact TextSheet.Loaded.after asks.replay_eq
          ⟨[], [], rfl, fun _ later => absurd later List.not_mem_nil, succeeds⟩
  · refine ⟨_, asks, fun {given} answered font member => ?_⟩
    cases answered
    exact loaded rfl font (mem_distinct.mpr member)

end Asking

namespace Recounts

variable {host : Host α σ} {stage next later : Stage α σ} {events more : List TextEvent}

/-- A step that changes no text and asks the host for nothing. -/
theorem quiet (sameState : later.hostState = stage.hostState)
    (sameTexts : ∀ id, later.graph.lettering? id = stage.graph.lettering? id)
    (size_le : stage.graph.size ≤ later.graph.size)
    (noted : ∀ id ∈ stage.missingFonts, id ∈ later.missingFonts) : Recounts host stage [] later where
  replay_eq := by
    rw [sheet, sheet, sameState, funext sameTexts]
    rfl
  lawful split := by simp at split
  size_le := size_le
  spared id listed _ := ⟨noted id listed, sameTexts id⟩
  copied split := by simp at split

theorem trans (first : Recounts host stage events next) (second : Recounts host next more later) :
    Recounts host stage (events ++ more) later where
  replay_eq := by rw [TextSheet.replay_append, first.replay_eq, second.replay_eq]
  lawful split font listed := by
    rcases TextSheet.split_append split with ⟨rest, inFirst⟩ | ⟨rest, rfl, inSecond⟩
    · exact first.lawful inFirst font listed
    · exact (second.lawful inSecond font listed).after first.replay_eq
  size_le := Nat.le_trans first.size_le second.size_le
  spared id noted within := by
    obtain ⟨stillNoted, kept⟩ := first.spared id noted within
    obtain ⟨noted, keptAgain⟩ :=
      second.spared id stillNoted (Nat.lt_of_lt_of_le within first.size_le)
    exact ⟨noted, keptAgain.trans kept⟩
  copied {before after instanceId componentId blueprint} split answered {index node} listed
      lacking := by
    rcases TextSheet.split_append split with ⟨rest, inFirst⟩ | ⟨rest, rfl, inSecond⟩
    · obtain ⟨noted, within, copied⟩ := first.copied inFirst answered listed lacking
      obtain ⟨stillNoted, kept⟩ := second.spared _ noted within
      exact ⟨stillNoted, Nat.lt_of_lt_of_le within second.size_le, kept.trans copied⟩
    · rw [TextSheet.replay_append, first.replay_eq] at answered
      exact second.copied inSecond answered listed lacking

/-- A text is written after questions to the host by which its fonts have loaded. -/
theorem write {id : Nat} {lettering : Lettering} (recounts : Recounts host stage events next)
    (loaded : ∀ font ∈ lettering.fonts, stage.sheet.Loaded host events font)
    (writable : id ∈ next.missingFonts → next.graph.size ≤ id)
    (sameState : later.hostState = next.hostState)
    (written : ∀ place, later.graph.lettering? place =
      if place = id then some lettering else next.graph.lettering? place)
    (size_le : next.graph.size ≤ later.graph.size)
    (noted : later.missingFonts = next.missingFonts) :
    Recounts host stage (events ++ [.writing id lettering]) later where
  replay_eq := by
    rw [TextSheet.replay_append, recounts.replay_eq, sheet, sheet, sameState, funext written]
    rfl
  lawful split font listed := by
    rcases TextSheet.split_append split with ⟨rest, inFirst⟩ | ⟨rest, rfl, last⟩
    · exact recounts.lawful inFirst font listed
    · obtain ⟨rfl, same⟩ | ⟨-, absent⟩ := List.singleton_eq_append_iff.mp last
      · obtain ⟨same, -⟩ := List.cons_eq_cons.mp same
        cases same
        rw [List.append_nil]
        exact loaded font listed
      · cases absent
  size_le := Nat.le_trans recounts.size_le size_le
  spared place listed within := by
    obtain ⟨stillNoted, kept⟩ := recounts.spared place listed within
    have different : place ≠ id := by
      rintro rfl
      have behind := writable stillNoted
      have grown := recounts.size_le
      omega
    rw [noted, written, if_neg different]
    exact ⟨stillNoted, kept⟩
  copied {before after instanceId componentId blueprint} split answered {index node} listed
      lacking := by
    rcases TextSheet.split_append split with ⟨rest, inFirst⟩ | ⟨rest, rfl, last⟩
    · obtain ⟨isNoted, within, copied⟩ := recounts.copied inFirst answered listed lacking
      have different : instanceId + 1 + index ≠ id := by
        rintro rfl
        have behind := writable isNoted
        omega
      rw [noted, written, if_neg different]
      exact ⟨isNoted, Nat.lt_of_lt_of_le within size_le, copied⟩
    · obtain ⟨-, same⟩ | ⟨-, absent⟩ := List.singleton_eq_append_iff.mp last
      · cases same
      · cases absent

end Recounts

end Stage

end DesignScene
