import CrudForge.Proofs.Command.Ending
import CrudForge.Proofs.Rendering.BareService

/-!
# Manifests of bare entities

A manifest may give the names of its entities and nothing else. Where the configuration is the
standard one, the files of their services are those of bare services (`serviceFiles_bare`).
-/

namespace CrudForge.Command

open Rendering

variable {w : Workspace} {args : GenerateArgs} {path text : String} {profile : Option String}
  {names : List String} {fs : List ServiceFile}

/-- A manifest that gives nothing but the names of its entities. -/
def bareManifest (names : List String) : Manifest :=
  { entities := names.map fun name => { name } }

/-- The entity that such a manifest gives the name of. -/
def bareEntity (name : String) : StaticEntity :=
  { idType := "i64", fields := [], crud := { name }, endpoints := [] }

/-- The settings are the standard ones if they are found to be. -/
theorem exists_settings (found : ((runIn (settings profile :
      Command (StateM Workspace) Settings) w).1.toOption.map fun s => (s.naming, s.render)) =
        some ({}, {})) :
    ∃ s, runIn (settings profile : Command (StateM Workspace) Settings) w = (.ok s, w) ∧
      s.naming = {} ∧ s.render = {} := by
  cases ran : runIn (settings profile : Command (StateM Workspace) Settings) w with
  | mk r w' =>
    have same := (readOnly_settings profile).eq_of_runIn ran
    subst same
    rw [ran] at found
    cases r with
    | error e => cases found
    | ok s =>
      obtain ⟨naming, render⟩ := Prod.mk.inj (Option.some.inj found)
      exact ⟨s, rfl, naming, render⟩

theorem classes_bare (found : (w.files.look path).text = .ok text)
    (read : Manifest.ofText text = .ok (bareManifest names))
    (resolved : (bareManifest names).resolve = .ok (names.map bareEntity))
    (named : ∀ name ∈ names, name ≠ "") :
    runIn (classes path {} : Command (StateM Workspace) (List ServiceClass)) w =
      (.ok (names.map fun name => bareService {} name "i64"), w) := by
  have generated : Generation.generateAll {} ((names.map bareEntity).map
      StaticEntity.metadata) = .ok (names.map fun name => bareService {} name "i64") := by
    rw [Generation.generateAll, Outcome.mapM_eq_ok_iff, List.map_map,
      List.forall₂_map_left_iff, List.forall₂_map_right_iff, List.forall₂_same]
    intro name member
    exact @generate_bareService {} (bareEntity name).metadata (named name member) rfl rfl
  have made : (bareManifest names).classes {} =
      .ok (names.map fun name => bareService {} name "i64") :=
    Outcome.bind_eq_ok_iff.2 ⟨names.map bareEntity, Outcome.mapError_eq_ok_iff.2 resolved,
      Outcome.mapError_eq_ok_iff.2 generated⟩
  exact runIn_classes (runIn_manifest found read) made

/-- The files of the services of bare entities. -/
theorem serviceFiles_bare {s : Settings}
    (set : runIn (settings args.profile : Command (StateM Workspace) Settings) w = (.ok s, w))
    (naming : s.naming = {}) (render : s.render = {})
    (generated : runIn (classes args.manifest {} :
      Command (StateM Workspace) (List ServiceClass)) w =
        (.ok (names.map fun name => bareService {} name "i64"), w))
    (rendered : (names.map fun name => bareService {} name "i64").mapM (ServiceFile.ofClass {}) =
      .ok fs) :
    runIn (serviceFiles args : Command (StateM Workspace) (List ServiceFile)) w = (.ok fs, w) := by
  rw [← render] at rendered
  exact runIn_serviceFiles_eq_ok_iff.2 ⟨rfl, s, _, set, naming.symm ▸ generated, rendered⟩

end CrudForge.Command
