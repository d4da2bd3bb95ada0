import DiskFleet.Proofs.Engine.Cloning
import DiskFleet.Proofs.Image.Asked
import DiskFleet.Proofs.Registry.Errand

/-!
# The image that a node sees

In the middle of a command or of a clone the documents of the image and of its volumes are on their
way from one state to the next. Whenever a node is asked for image work in between, it is shown both
as they are at that moment: the document of the image with the registered documents of its volumes in
it, and storage wherever it is told to lay out a layer.

This needs no more of an engine than that the image itself is in order; for the reachable states that
follows from `Owned` (`Engine.Owned.founded`).
-/

namespace DiskFleet

namespace Engine

variable {σ : Type} {engine : Engine σ} {id : String} {image : Image}

/-- Every layer of a registered image stands on a registered volume that no other image holds. -/
theorem Owned.founded (h : engine.Owned) (hImage : engine.images.get? id = some image) :
    Session.Founded (engine.HeldBeside id) ⟨image, engine.world⟩ :=
  ⟨h.holds hImage, h.made hImage⟩

/-- **A node sees the image as it is.** Let every layer of a well-formed image hold a registered
volume of its own. Each call of the image service that a command for the image makes, whatever comes
of it, belongs to a moment of the command (`ImageCommand.Asks`), up to which the agents had received
the calls before it, and shows the document that the image then has, with the registered documents
of the volumes put in. If it asks for `create`, every layer that this `create` targets is shown with
an allocated volume. The same holds of a clone (`Session.CloneAsks`), which never asks for `create`
and shows itself: if it goes through, the image that is registered is the one that was shown. -/
theorem requests_show_current_image {taken : String → Prop}
    (hImage : engine.images.get? id = some image) (hFormed : image.WellFormed)
    (hFounded : Session.Founded taken ⟨image, engine.world⟩) (agent : Agent σ) :
    (∀ command result after, (updateImage agent id command).run engine = (result, after) →
      engine.world.link.history <+: after.world.link.history ∧
      ∀ i exchange, engine.world.link.history.length ≤ i →
        after.world.link.history[i]? = some exchange →
        exchange.call.service = Call.imageService →
        ∃ moment name args,
          command.Asks agent engine.settings ⟨image, engine.world⟩ moment name args ∧
          moment.world.link.history = after.world.link.history.take i ∧
          exchange.errand? = some (.image name args) ∧ moment.Shows exchange.call ∧
          (name = "create" → ∃ target extra, command.createTarget? = some target ∧
            args = ImageCommand.targetToJson target extra ∧
            ∀ layer, Session.Targeted moment.image target layer →
              exchange.call.args.follow? (Session.volumePath layer ++ ["meta", "allocated"]) =
                some (.bool true))) ∧
    ∀ result after, (cloneImage agent id).run engine = (result, after) →
      engine.world.link.history <+: after.world.link.history ∧
      ∀ i exchange, engine.world.link.history.length ≤ i →
        after.world.link.history[i]? = some exchange →
        exchange.call.service = Call.imageService →
        ∃ moment name args,
          Session.CloneAsks agent engine.settings ⟨image, engine.world⟩ moment name args ∧
          moment.world.link.history = after.world.link.history.take i ∧
          exchange.errand? = some (.image name args) ∧ moment.Shows exchange.call ∧
          name ≠ "create" ∧
          ∀ cloneId, result = .ok cloneId → after.images.get? cloneId = some moment.image := by
  constructor
  case left =>
    intro command result after hRun
    have hAsked := Session.update_asked agent engine.settings command ⟨image, engine.world⟩
    rw [run_updateImage_of_found agent command hImage] at hRun
    cases hRun
    refine ⟨hAsked.grown, fun i exchange hNew hMade hService => ?_⟩
    obtain ⟨moment, name, args, hAsks, hCall, hHistory⟩ := hAsked.moments hNew hMade hService
    have hShows : moment.Shows exchange.call :=
      (hAsks.founded hFormed hFounded).standing.shows_of_callFor hCall
    refine ⟨moment, name, args, hAsks, hHistory, Image.errand?_callFor hCall exchange.outcome,
      hShows, fun hCreate => ?_⟩
    obtain ⟨target, extra, hTarget, hArgs, hHeld⟩ := hAsks.create_allocated hCreate
    refine ⟨target, extra, hTarget, hArgs, fun layer hTargeted => ?_⟩
    obtain ⟨volume, ⟨found, hFound, hVolume⟩, hAllocated⟩ := hHeld layer hTargeted
    exact hShows.allocated hFound hVolume hAllocated
  case right =>
    intro result after hRun
    have hAsked := Session.clone_asked agent engine.settings ⟨image, engine.world⟩
    rcases hClone : (Session.clone agent engine.settings).run ⟨image, engine.world⟩ with
      ⟨made, ⟨kept, world⟩⟩
    obtain ⟨hSame, -, -⟩ := Session.clone_cases agent World.Admission.of_all _ hClone
    obtain rfl : kept = image := hSame
    rw [hClone] at hAsked
    rw [run_cloneImage hImage hClone] at hRun
    have hWorld : after.world = world := by
      cases made <;> cases hRun <;> rfl
    rw [hWorld]
    refine ⟨hAsked.grown, fun i exchange hNew hMade hService => ?_⟩
    obtain ⟨moment, name, args, hAsks, hCall, hHistory⟩ := hAsked.moments hNew hMade hService
    have hShows : moment.Shows exchange.call :=
      (hAsks.founded hFounded).standing.shows_of_callFor hCall
    refine ⟨moment, name, args, hAsks, hHistory, Image.errand?_callFor hCall exchange.outcome,
      hShows, ?_, fun cloneId hOk => ?_⟩
    · obtain ⟨-, -, -, -, -, -, -, rfl, -⟩ := hAsks
      decide
    · cases made with
      | error failure =>
          cases hRun
          cases hOk
      | ok clone =>
          cases hRun
          cases hOk
          rw [hAsks.image_eq hClone, Table.get?_insert, if_pos rfl]

/-- Once the base has been allocated the node is told to lay out both layers of a chain, and once
both copies have, to tie the clone of it. -/
theorem requests_show_current_image_halfMade :
    ∃ image, halfMade.images.get? "i" = some image ∧ image.topology.names = ["base", "top"] ∧
      image.WellFormed ∧
      Session.Founded (halfMade.HeldBeside "i") ⟨image, halfMade.world⟩ ∧
      (∃ out after exchange, ∃ moment : Session Unit,
        (updateImage .willing "i" (.create none ∅)).run halfMade = (.ok out, after) ∧
        after.world.link.history[halfMade.world.link.history.length + 1]? = some exchange ∧
        exchange.call.command? = some "create" ∧ moment.image = image ∧
        moment.Shows exchange.call ∧
        ∀ layer ∈ ["base", "top"],
          exchange.call.args.follow? (Session.volumePath layer ++ ["meta", "allocated"]) =
            some (.bool true)) ∧
      ∃ cloneId after exchange, ∃ moment : Session Unit,
        (cloneImage .willing "i").run halfMade = (.ok cloneId, after) ∧
        after.world.link.history[halfMade.world.link.history.length + 2]? = some exchange ∧
        exchange.call.command? = some "rebase" ∧
        after.images.get? cloneId = some moment.image ∧ moment.Shows exchange.call := by
  have hOwned : halfMade.Owned :=
    .of_run (vacant_vacant _ _ _ _) Supply.strokes_distinct (.of_list careful_makingTop)
  have hNames : (halfMade.images.get? "i").map (·.topology.names) = some ["base", "top"] := by
    decide +kernel
  obtain ⟨image, hImage, hChain⟩ := Option.map_eq_some_iff.1 hNames
  have hFormed : image.WellFormed := hOwned.wellFormed hImage
  have hFounded := hOwned.founded hImage
  obtain ⟨hCommands, hClones⟩ := requests_show_current_image hImage hFormed hFounded .willing
  refine ⟨image, hImage, hChain, hFormed, hFounded, ?_, ?_⟩
  · have hDone : ((updateImage .willing "i" (.create none ∅)).run
        halfMade).1.toOption.isSome = true := by decide +kernel
    have hAsked : (((updateImage .willing "i" (.create none ∅)).run
        halfMade).2.world.link.history[halfMade.world.link.history.length + 1]?).map
          (fun exchange => (exchange.call.service, exchange.call.command?)) =
            some (Call.imageService, some "create") := by decide +kernel
    rcases hRun : (updateImage .willing "i" (.create none ∅)).run halfMade with
      ⟨failure | out, after⟩
    · rw [hRun] at hDone
      cases hDone
    · rw [hRun] at hAsked
      obtain ⟨exchange, hExchange, hCall⟩ := Option.map_eq_some_iff.1 hAsked
      obtain ⟨hService, hCommand⟩ := Prod.mk.inj hCall
      obtain ⟨-, hMade⟩ := hCommands _ _ _ hRun
      obtain ⟨moment, name, args, hAsks, -, -, hShows, hHeld⟩ :=
        hMade _ exchange (Nat.le_add_right _ 1) hExchange hService
      have hSame : moment.image = image ∧ name = "create" := by
        cases hAsks with
        | create _ hAllocate =>
            have hWorking : Session.Working .willing (fun _ => True) (fun _ => False)
                ⟨image, halfMade.world⟩ moment :=
              (Session.allocateLayers_working _ []).of_run hAllocate
            exact ⟨hWorking.1, rfl⟩
        | handedOn hOther => cases hOther
      obtain ⟨hKept, rfl⟩ := hSame
      obtain ⟨target, extra, hTarget, -, hAllocated⟩ := hHeld rfl
      obtain rfl : none = target := Option.some.inj hTarget
      refine ⟨out, after, exchange, moment, rfl, hExchange, hCommand, hKept, hShows,
        fun layer hLayer => hAllocated layer ?_⟩
      rw [Session.Targeted, hKept, hChain]
      exact hLayer
  · have hDone : ((cloneImage .willing "i").run halfMade).1.toOption.isSome = true := by
      decide +kernel
    have hAsked : (((cloneImage .willing "i").run
        halfMade).2.world.link.history[halfMade.world.link.history.length + 2]?).map
          (fun exchange => (exchange.call.service, exchange.call.command?)) =
            some (Call.imageService, some "rebase") := by decide +kernel
    rcases hRun : (cloneImage .willing "i").run halfMade with ⟨failure | cloneId, after⟩
    · rw [hRun] at hDone
      cases hDone
    · rw [hRun] at hAsked
      obtain ⟨exchange, hExchange, hCall⟩ := Option.map_eq_some_iff.1 hAsked
      obtain ⟨hService, hCommand⟩ := Prod.mk.inj hCall
      obtain ⟨-, hMade⟩ := hClones _ _ hRun
      obtain ⟨moment, name, args, -, -, -, hShows, -, hRegistered⟩ :=
        hMade _ exchange (Nat.le_add_right _ 2) hExchange hService
      exact ⟨cloneId, after, exchange, moment, rfl, hExchange, hCommand, hRegistered cloneId rfl,
        hShows⟩

end Engine

end DiskFleet
