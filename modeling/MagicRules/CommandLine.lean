import MagicRules.Report

/-!
# The command line

Arguments are switches, the option `jobs` with a value, and magic files or folders of them.
Behind `--` everything is a file. Arguments are read one after the other up to the first that
is unknown or asks for help or the version; only when all of them are read are they checked as
a whole: a file must be there, nothing may be given twice, and `verbose` and `quiet` exclude
each other.

The number of jobs has no bearing on what is printed.
-/

namespace MagicRules.CommandLine

inductive Switch where
  | help
  | version
  | summary
  | verbose
  | quiet
  | jobs
  deriving DecidableEq, Repr

namespace Switch

def ofName? (name : Text) : Option Switch :=
  match String.ofList name with
  | "help" => some help
  | "version" => some version
  | "summary" => some summary
  | "verbose" => some verbose
  | "quiet" => some quiet
  | "jobs" => some jobs
  | _ => none

def ofLetter? : Char → Option Switch
  | 'h' => some help
  | 'V' => some version
  | 's' => some summary
  | 'v' => some verbose
  | 'q' => some quiet
  | 'j' => some jobs
  | _ => none

end Switch

structure Given where
  /-- Every switch as often as it was given. -/
  switches : List Switch := []
  /-- Whether a value has been given for the jobs. -/
  hasJobs : Bool := false
  /-- Whether the next argument is a value, unless it is a switch. -/
  awaitsJobs : Bool := false
  /-- Whether everything that follows is a file. -/
  onlyFiles : Bool := false
  files : List Text := []
  deriving DecidableEq, Repr

structure Options where
  files : List Text
  summary : Bool
  verbose : Bool
  quiet : Bool
  deriving DecidableEq, Repr

inductive Request where
  | help
  | version
  | misuse
  | dump (options : Options)
  deriving DecidableEq, Repr

namespace Given

/-- Adds a switch, with its value if it came with one; only the jobs take it. A request that
needs nothing else ends the reading. -/
def addSwitch (g : Given) (s : Switch) (value : Option Text) : Except Request Given :=
  match s with
  | .help => .error .help
  | .version => .error .version
  | .jobs =>
    .ok { g with switches := s :: g.switches, hasJobs := g.hasJobs || value.isSome,
                 awaitsJobs := value.isNone }
  | _ => .ok { g with switches := s :: g.switches, awaitsJobs := false }

/-- Adds the switches of an argument with one hyphen. Behind the letter of the jobs stands
their value, if anything does. -/
def addLetters (g : Given) : Text → Except Request Given
  | [] => .ok g
  | c :: cs =>
    match Switch.ofLetter? c with
    | none => .error .misuse
    | some .jobs => g.addSwitch .jobs (if cs.isEmpty then none else some cs)
    | some s => do (← g.addSwitch s none).addLetters cs

/-- Adds the switch of an argument with two hyphens or more, behind which an equals sign may
stand with a value. -/
def addName (g : Given) (argument : Text) : Except Request Given :=
  let (name, value) := match argument.cutAt? '=' with
    | some (name, value) => (name, some value)
    | none => (argument, none)
  match Switch.ofName? name with
  | some s => g.addSwitch s value
  | none => .error .misuse

/-- Adds what is no switch: a value that is awaited, or a file. -/
def addPlain (g : Given) (argument : Text) : Given :=
  if g.awaitsJobs then { g with hasJobs := true, awaitsJobs := false }
  else { g with files := g.files ++ [argument] }

def add (g : Given) (argument : Text) : Except Request Given :=
  if g.onlyFiles then .ok { g with files := g.files ++ [argument] }
  else match argument with
    | ['-', '-'] => .ok { g with onlyFiles := true }
    | '-' :: '-' :: rest => g.addName (rest.dropWhile (· = '-'))
    | '-' :: c :: cs => g.addLetters (c :: cs)
    | _ => .ok (g.addPlain argument)

def count (g : Given) (s : Switch) : Nat := g.switches.count s

def isProper (g : Given) : Bool :=
  !g.files.isEmpty
    && [Switch.summary, .verbose, .quiet, .jobs].all (g.count · ≤ 1)
    && (g.count .jobs = 0 || g.hasJobs)
    && !(g.switches.contains .verbose && g.switches.contains .quiet)

def request (g : Given) : Request :=
  if g.isProper then
    .dump { files := g.files, summary := g.switches.contains .summary,
            verbose := g.switches.contains .verbose, quiet := g.switches.contains .quiet }
  else .misuse

end Given

def read (arguments : List Text) : Request :=
  match arguments.foldlM Given.add {} with
  | .ok g => g.request
  | .error request => request

inductive Severity where
  | error
  | warn
  | debug
  deriving DecidableEq, Repr

/-- What is told beside the output. -/
inductive Event where
  | missing (path : Text)
  | failed (path : Text) (failure : Failure)
  | compiled (path : Text) (rules failures : Nat)
  deriving DecidableEq, Repr

namespace Event

def severity : Event → Severity
  | missing _ => .error
  | failed _ _ => .warn
  | compiled _ _ _ => .debug

def message : Event → String
  | missing path => String.ofList path ++ ": no such file or folder"
  | failed path failure =>
    String.ofList path ++ ": " ++ failure.cause.message ++ ": " ++ String.ofList failure.line
  | compiled path rules failures =>
    String.ofList path ++ ": " ++ toString rules ++ " rules, " ++ toString failures ++ " failed"

end Event

structure Response where
  output : Text
  events : List Event := []
  exit : Nat := 0
  deriving DecidableEq, Repr

def versionText : String := "mdump 0.1.0\n"

def helpText : String :=
  versionText ++
  "Compiles magic(5) files and prints the rules they define.\n" ++
  "\n" ++
  "USAGE:\n" ++
  "    mdump [FLAGS] [OPTIONS] <file>...\n" ++
  "\n" ++
  "FLAGS:\n" ++
  "    -h, --help       Prints help information\n" ++
  "    -q, --quiet      Do not log lines that fail to compile\n" ++
  "    -s, --summary    Print one line per file instead of every rule\n" ++
  "    -V, --version    Prints version information\n" ++
  "    -v, --verbose    Log compile progress\n" ++
  "\n" ++
  "OPTIONS:\n" ++
  "    -j, --jobs <jobs>    Number of files to compile at once\n" ++
  "\n" ++
  "ARGS:\n" ++
  "    <file>...    Magic files or directories of them\n"

def Options.eventsOf (o : Options) (report : Report) : List Event :=
  (if o.quiet then [] else report.failures.map (Event.failed report.path))
    ++ (if o.verbose then
          [.compiled report.path report.rules.size report.failures.length]
        else [])

/-- Dumps the files found from each path. A path that leads nowhere is told, and is no failure
of the program. -/
def Options.dump (o : Options) (find? : Text → Option (List SourceFile)) : Response :=
  let found := o.files.map fun path => (path, find? path)
  let missing := found.filterMap fun (path, files) =>
    if files.isNone then some (Event.missing path) else none
  let reports := (found.flatMap fun (_, files) => files.getD []).map Report.ofFile
  { output := Report.table
      (if o.summary then Report.fileRows reports else Report.ruleRows reports)
    events := missing ++ reports.flatMap o.eventsOf }

/-- Answers a request; `find?` gives the files from a path on. -/
def respond (arguments : List Text) (find? : Text → Option (List SourceFile)) : Response :=
  match read arguments with
  | .help => { output := helpText.toList }
  | .version => { output := versionText.toList }
  | .misuse => { output := [], exit := 1 }
  | .dump options => options.dump find?

end MagicRules.CommandLine
