import CrudForge.Command.Generate

/-!
The arguments of the program: a command, its options in any order, and the path of the manifest
for the commands that need one. An option is given once; its value is the next argument, or stands
behind an equals sign or right behind the letter of the option. Behind two hyphens there are no
options.
-/

namespace CrudForge

/-- What the program is asked for. -/
inductive Request
  | generate (args : GenerateArgs)
  | inspect (manifest : String) (profile : Option String)
  | config (profile : Option String)
  deriving DecidableEq, Repr

/-- Why there is no request in some arguments. -/
inductive NoRequest
  | help
  | version
  /-- The arguments have no meaning. -/
  | refused
  deriving DecidableEq, Repr

namespace Arguments

/-- The name of a request. -/
inductive Verb
  | generate
  | inspect
  | config
  deriving DecidableEq, Repr

/-- The request of a name. -/
def verb? (name : String) : Option Verb :=
  [("generate", .generate), ("inspect", .inspect), ("config", .config)].lookup name

/-- Whether a request needs a manifest. -/
def Verb.needsManifest : Verb → Bool
  | generate | inspect => true
  | config => false

/-- An option. -/
inductive Opt
  | verbose
  | help
  | version
  | dryRun
  | force
  | out
  | profile
  deriving DecidableEq, Repr

namespace Opt

/-- The names of options, with the letters that stand for some of them. -/
def names : List (Opt × String × Option Char) :=
  [(verbose, "verbose", some 'v'), (help, "help", some 'h'), (version, "version", some 'V'),
    (dryRun, "dry-run", none), (force, "force", none), (out, "out", some 'o'),
    (profile, "profile", some 'p')]

/-- Whether an option can be given with a request, or without any. -/
def allowed : Opt → Option Verb → Bool
  | verbose, _ | help, _ => true
  | version, verb => verb.isNone
  | dryRun, verb | force, verb | out, verb => verb = some .generate
  | profile, verb => verb.isSome

/-- The option of a name. -/
def ofName? (verb : Option Verb) (name : String) : Option Opt :=
  (names.find? fun (o, n, _) => n = name && o.allowed verb).map (·.1)

/-- The option of a letter. -/
def ofLetter? (verb : Option Verb) (letter : Char) : Option Opt :=
  (names.find? fun (o, _, l) => l = some letter && o.allowed verb).map (·.1)

/-- Whether an option has a value. -/
def hasValue : Opt → Bool
  | out | profile => true
  | _ => false

end Opt

/-- The arguments that have been read. -/
structure Draft where
  /-- The options without a value. -/
  flags : List Opt := []
  out : Option String := none
  profile : Option String := none
  manifest : Option String := none

namespace Draft

/-- The draft with an option that has no value. -/
def addFlag (d : Draft) : Opt → Except NoRequest Draft
  | .help => .error .help
  | .version => .error .version
  | o => if d.flags.contains o then .error .refused else .ok { d with flags := o :: d.flags }

/-- The draft with an option that has a value. No path is empty. -/
def addValue (d : Draft) (o : Opt) (value : String) : Except NoRequest Draft :=
  match o with
  | .out =>
    if d.out.isSome || value = "" then .error .refused else .ok { d with out := some value }
  | .profile =>
    if d.profile.isSome then .error .refused else .ok { d with profile := some value }
  | _ => .error .refused

/-- The draft with an argument that is no option. -/
def addManifest (verb : Verb) (d : Draft) (value : String) : Except NoRequest Draft :=
  if !verb.needsManifest || d.manifest.isSome || value = "" then .error .refused
  else .ok { d with manifest := some value }

/-- The draft with the options of some letters. The last of them may still need its value. -/
def addLetters (verb : Option Verb) : Draft → List Char → Except NoRequest (Draft × Option Opt)
  | d, [] => .ok (d, none)
  | d, c :: cs =>
    match Opt.ofLetter? verb c with
    | none => .error .refused
    | some o =>
      if o.hasValue then
        match cs with
        | [] => .ok (d, some o)
        | '=' :: cs => (·, none) <$> d.addValue o (String.ofList cs)
        | cs => (·, none) <$> d.addValue o (String.ofList cs)
      else do
        let d ← d.addFlag o
        addLetters verb d cs

/-- The draft with the option of a name, which may still need its value. Behind an equals sign
there is the value. -/
def addName (verb : Option Verb) (d : Draft) (cs : List Char) :
    Except NoRequest (Draft × Option Opt) :=
  let name := cs.takeWhile (· ≠ '=')
  match Opt.ofName? verb (String.ofList name), cs.drop name.length with
  | none, _ => .error .refused
  | some o, [] => if o.hasValue then .ok (d, some o) else (·, none) <$> d.addFlag o
  | some o, _ :: value =>
    if o.hasValue then (·, none) <$> d.addValue o (String.ofList value) else .error .refused

end Draft

/-- What an argument looks like. -/
inductive Shape
  /-- Two hyphens, behind which there are no options. -/
  | separator
  | name (cs : List Char)
  | letters (cs : List Char)
  | value

/-- What an argument looks like. A hyphen on its own is no option. -/
def shape (arg : String) : Shape :=
  match arg.toList with
  | ['-', '-'] => .separator
  | '-' :: '-' :: cs => .name cs
  | '-' :: c :: cs => .letters (c :: cs)
  | _ => .value

/-- The draft with the arguments of a request. An option waits for its value if it is `pending`,
and only an argument that looks like no option is one. -/
def readRequest (verb : Verb) : Option Opt → Draft → List String → Except NoRequest Draft
  | pending, d, [] => if pending.isSome then .error .refused else .ok d
  | some o, d, arg :: args =>
    match shape arg with
    | .value => do
      let d ← d.addValue o arg
      readRequest verb none d args
    | _ => .error .refused
  | none, d, arg :: args =>
    match shape arg with
    | .separator => args.foldlM (Draft.addManifest verb) d
    | .value => do
      let d ← d.addManifest verb arg
      readRequest verb none d args
    | .name cs => do
      let (d, pending) ← d.addName (some verb) cs
      readRequest verb pending d args
    | .letters cs => do
      let (d, pending) ← d.addLetters (some verb) cs
      readRequest verb pending d args

/-- Where files are written to if it is not told. -/
def defaultOut : String := "src/services"

/-- The request of a draft, in which the manifest must be if it is needed. -/
def request (verb : Verb) (d : Draft) : Except NoRequest Request :=
  match verb, d.manifest with
  | .config, _ => .ok (.config d.profile)
  | .inspect, some manifest => .ok (.inspect manifest d.profile)
  | .generate, some manifest =>
    .ok (.generate
      { manifest, out := d.out.getD defaultOut, profile := d.profile
        dryRun := d.flags.contains .dryRun, force := d.flags.contains .force })
  | _, none => .error .refused

/-- The answer to a question for help, which may name a request. -/
def helpOn : List String → NoRequest
  | [] => .help
  | [name] => if (verb? name).isSome || name = "help" then .help else .refused
  | _ => .refused

/-- The request in some arguments, of which those before the name of the request have been read
into a draft. -/
def readFrom : Draft → List String → Except NoRequest Request
  | _, [] => .error .refused
  | d, arg :: args =>
    match shape arg with
    | .separator => .error .refused
    | .name cs => do
      let (d, _) ← d.addName none cs
      readFrom d args
    | .letters cs => do
      let (d, _) ← d.addLetters none cs
      readFrom d args
    | .value =>
      if arg = "help" then .error (helpOn args)
      else
        match verb? arg with
        | none => .error .refused
        | some verb => readRequest verb none {} args >>= request verb

/-- The request in some arguments. -/
def read (args : List String) : Except NoRequest Request :=
  readFrom {} args

end Arguments
end CrudForge
