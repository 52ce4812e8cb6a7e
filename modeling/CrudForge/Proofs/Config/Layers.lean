import CrudForge.Config.Load
import CrudForge.Proofs.Command.World
import CrudForge.Proofs.Config.Variables

/-!
# The layers of a configuration

A file of a configuration puts the values that its text flattens to in front of those that are
there (`flatten_eq_append`), and so a configuration is looked up layer by layer: the environment
comes first, then the file of the profile, and then the file that all profiles share
(`runIn_loadIn`).
-/

namespace CrudForge.Config

/-! ## Files -/

mutual

/-- A YAML value comes to the same entries whatever is there before. -/
theorem flatten_eq_append (key : String) (v : Yaml.Value) (es : ConfigEntries) :
    flatten key v es = flatten key v [] ++ es := by
  cases v with
  | map entries =>
    rw [flatten, flatten]
    exact flattenEntries_eq_append key entries es
  | _ =>
    unfold flatten
    split <;> rfl

theorem flattenEntries_eq_append (key : String) (entries : List (Yaml.Value × Yaml.Value))
    (es : ConfigEntries) : flattenEntries key entries es = flattenEntries key entries [] ++ es := by
  match entries with
  | [] => rw [flattenEntries, flattenEntries, List.nil_append]
  | (k, v) :: rest =>
    rw [flattenEntries, flattenEntries, flattenEntries_eq_append key rest,
      flatten_eq_append _ v es, ← List.append_assoc, ← flattenEntries_eq_append key rest]

end

/-- The values of a file of a configuration by what is found at its path, or nothing if it is
there and malformed. A file that is missing has no values. -/
def layer? : Found → Option ConfigEntries
  | .nothing => some []
  | .file (.text text) => (Yaml.Value.ofText? text).map fun v => flatten "" v []
  | _ => none

variable {w : Workspace}

theorem runIn_addFile (path : String) (es : ConfigEntries) :
    runIn (addFile path es : ExceptT ConfigError (StateM Workspace) ConfigEntries) w =
      (match layer? (w.files.look path) with
        | some values => .ok (values ++ es)
        | none => .error (.load (some path)), w) := by
  rw [addFile, runIn_bind, runIn_look]
  cases w.files.look path with
  | nothing => rfl
  | directory => rfl
  | file content =>
    cases content with
    | bytes _ => rfl
    | text text =>
      simp only [addYaml?, layer?]
      cases Yaml.Value.ofText? text with
      | none => rfl
      | some v =>
        simp only [Option.map_some, ← flatten_eq_append]
        rfl

/-- The pairs of a file of variables by what is found at its path. -/
def foundPairs (found : Found) (env : Environment) : List (String × String) :=
  match found with
  | .file content => DotEnv.pairs content.readable env
  | _ => []

theorem runIn_addVariables (path : String) (env : Environment) :
    runIn (addVariables path env : ExceptT ConfigError (StateM Workspace) Environment) w =
      (.ok (env.extend (foundPairs (w.files.look path) env)), w) := by
  rw [addVariables, runIn_bind, runIn_look]
  cases w.files.look path with
  | nothing => rfl
  | directory => rfl
  | file content =>
    simp only [foundPairs, ← DotEnv.load_eq_extend]
    rfl

/-! ## Loading -/

/-- The environment that the files of variables make, in front of the entries of the other files.
The second file is read where the variables of the first one are known. -/
theorem runIn_overlay (directory profile : String) (env : Environment) (es : ConfigEntries) :
    let shared := foundPairs (w.files.look (Path.join directory ".env")) env
    let special := foundPairs (w.files.look (Path.join directory (".env." ++ profile)))
      (env.extend shared)
    runIn (do
        let env ← addVariables (Path.join directory ".env") env
        let env ← addVariables (Path.join directory (".env." ++ profile)) env
        return { entries := env.overlay es, profile } :
          ExceptT ConfigError (StateM Workspace) Config) w =
      (.ok { entries := ((env.extend shared).extend special).overlay es, profile }, w) := by
  rw [runIn_bind, runIn_addVariables]
  dsimp only
  rw [runIn_bind, runIn_addVariables]
  rfl

theorem value?_overlay (env : Environment) (strong weak : ConfigEntries) (profile key : String) :
    value? { entries := env.overlay (strong ++ (weak ++ [])), profile } key =
      ((env.last? key).map .string).or ((strong.lookup key).or (weak.lookup key)) := by
  rw [value?, Environment.lookup_overlay, List.append_nil, List.lookup_append]

/-- Loading changes nothing in the world. The profile is that of the environment as it was before,
or else the one that is asked for. The first malformed file is the error. Without one, every key
has the text of the last variable that stands for it, or else its value in the file of the
profile, or else its value in the file that all profiles share; the variables are those that were
set, and then those of the two files of variables. So a key of any layer is a key of all. -/
theorem runIn_loadIn (directory : String) (asked : Option String) (w : Workspace) :
    let profile := ((w.environment.lookup "SVCGEN_PROFILE").or asked).getD "dev"
    let base := Path.join directory "svcgen.yaml"
    let own := Path.join directory ("svcgen-" ++ profile ++ ".yaml")
    let shared := foundPairs (w.files.look (Path.join directory ".env")) w.environment
    let special := foundPairs (w.files.look (Path.join directory (".env." ++ profile)))
      (w.environment.extend shared)
    let env := (w.environment.extend shared).extend special
    (∀ name, env.lookup name =
      (w.environment.lookup name).or ((shared.lookup name).or (special.lookup name))) ∧
    ∃ result, runIn (loadIn directory asked : ExceptT ConfigError (StateM Workspace) Config) w =
        (result, w) ∧
      match layer? (w.files.look base), layer? (w.files.look own) with
      | none, _ => result = .error (.load (some base))
      | some _, none => result = .error (.load (some own))
      | some weak, some strong => ∃ c, result = .ok c ∧ c.profile = profile ∧
        (∀ key, c.value? key =
          ((env.last? key).map .string).or ((strong.lookup key).or (weak.lookup key))) ∧
        ∀ key, c.contains key =
          ((env.last? key).isSome || (strong.lookup key).isSome || (weak.lookup key).isSome) := by
  intro profile base own shared special env
  refine ⟨fun name => ?_, ?_⟩
  · rw [Environment.lookup_extend, Environment.lookup_extend, Option.or_assoc]
  have known : runIn (Host.environment : ExceptT ConfigError (StateM Workspace) Environment) w =
      (.ok w.environment, w) := rfl
  have chosen : chooseProfile w.environment asked = profile := rfl
  have basePath : Path.join directory baseFile = base := rfl
  have ownPath : Path.join directory (profileFile profile) = own := rfl
  -- Each layer is one step, and only a file can end the run.
  rw [loadIn, runIn_bind, known]
  dsimp only
  rw [chosen, basePath, ownPath, runIn_bind, runIn_addFile]
  cases layer? (w.files.look base) with
  | none => exact ⟨_, rfl, rfl⟩
  | some weak =>
    dsimp only
    rw [runIn_bind, runIn_addFile]
    cases layer? (w.files.look own) with
    | none => exact ⟨_, rfl, rfl⟩
    | some strong =>
      dsimp only
      refine ⟨_, runIn_overlay directory profile w.environment _, _, rfl, rfl,
        value?_overlay env strong weak profile, fun key => ?_⟩
      rw [contains, value?_overlay, Option.isSome_or, Option.isSome_or, Option.isSome_map,
        Bool.or_assoc]

end CrudForge.Config
