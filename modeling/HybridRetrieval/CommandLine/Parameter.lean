/-!
# Parameters on a command line

A parameter has a long name and perhaps a letter.  `scan` splits the words of a command line into
the parameters that are given, with their values, and what ends them.  A value is attached to the
name or is the next word; letters may share one dash, the last of them taking a value.
-/

namespace HybridRetrieval.CommandLine

/-- What a parameter takes.  A word that begins with a dash is taken as a value only where the
parameter allows it; a parameter that stops the scan makes the rest of the words irrelevant. -/
inductive Takes where
  | nothing
  | value
  | anyValue
  | stop
deriving DecidableEq, Repr

/-- A parameter that a command has. -/
structure Parameter where
  name : String
  letter : Option Char := none
  takes : Takes := .value
deriving DecidableEq, Repr

/-- A parameter that was given, by its name; one without a value has the empty one. -/
abbrev Given := List (String × String)

/-- What ends a scan. -/
inductive Ending where
  /-- There are no more words. -/
  | finished
  /-- A word that is neither a parameter nor a value, and the words after it. -/
  | word (word : String) (rest : List String)
  /-- A parameter that stops the scan. -/
  | stopped (name : String)
  /-- The words make no sense. -/
  | misuse
deriving DecidableEq, Repr

/-- What a single word is, by its dashes. -/
inductive Word where
  | plain
  | escape
  | long (name : List Char) (attached : Option (List Char))
  | letters (cs : List Char)
deriving DecidableEq, Repr

/-- Splits a long name from the value behind an equals sign. -/
def splitLong (cs : List Char) : Word :=
  let name := cs.takeWhile (· ≠ '=')
  match cs.drop name.length with
  | [] => .long name none
  | _ :: value => .long name (some value)

/-- Tells words apart.  A single dash is a plain word, and two dashes end the parameters. -/
def Word.ofChars : List Char → Word
  | ['-', '-'] => .escape
  | '-' :: '-' :: cs => splitLong cs
  | '-' :: c :: cs => .letters (c :: cs)
  | _ => .plain

/-- The parameters among letters behind one dash: all are complete, the last one wants the next
word, the scan stops, or the letters make no sense. -/
inductive Cluster where
  | complete (given : Given)
  | wants (given : Given) (last : Parameter)
  | stopped (given : Given) (name : String)
  | misuse
deriving DecidableEq, Repr

/-- Puts a parameter in front of the others. -/
def Cluster.cons (entry : String × String) : Cluster → Cluster
  | complete given => complete (entry :: given)
  | wants given last => wants (entry :: given) last
  | stopped given name => stopped (entry :: given) name
  | misuse => misuse

/-- An attached value without the equals sign that may come before it. -/
def attachedValue : List Char → List Char
  | '=' :: value => value
  | value => value

/-- Reads letters one by one; what follows one that takes a value is its value. -/
def Cluster.read (parameters : List Parameter) : List Char → Cluster
  | [] => complete []
  | c :: rest =>
    match parameters.find? fun p => p.letter == some c with
    | none => misuse
    | some p =>
      match p.takes with
      | .stop => stopped [] p.name
      | .nothing => (read parameters rest).cons (p.name, "")
      | .value | .anyValue =>
        if rest.isEmpty then wants [] p
        else complete [(p.name, String.ofList (attachedValue rest))]

/-- Whether a word can be the value of the parameter before it. -/
def Parameter.accepts (p : Parameter) (word : String) : Bool :=
  p.takes == .anyValue || Word.ofChars word.toList == .plain

/-- Puts parameters in front of what a scan found. -/
def prepend (given : Given) (found : Given × Ending) : Given × Ending :=
  (given ++ found.1, found.2)

/-- Splits words into parameters and what ends them, with the parameter whose value is next. -/
def scanFrom (parameters : List Parameter) : Option Parameter → List String → Given × Ending
  | none, [] => ([], .finished)
  | some _, [] => ([], .misuse)
  | some p, word :: rest =>
    if p.accepts word then prepend [(p.name, word)] (scanFrom parameters none rest)
    else ([], .misuse)
  | none, word :: rest =>
    match Word.ofChars word.toList with
    | .plain => ([], .word word rest)
    | .escape => ([], if rest.isEmpty then .finished else .misuse)
    | .long name attached =>
      match parameters.find? fun p => p.name.toList == name with
      | none => ([], .misuse)
      | some p =>
        match p.takes, attached with
        | .stop, none => ([], .stopped p.name)
        | .nothing, none => prepend [(p.name, "")] (scanFrom parameters none rest)
        | .stop, some _ | .nothing, some _ => ([], .misuse)
        | _, none => scanFrom parameters (some p) rest
        | _, some value =>
          prepend [(p.name, String.ofList value)] (scanFrom parameters none rest)
    | .letters cs =>
      match Cluster.read parameters cs with
      | .complete given => prepend given (scanFrom parameters none rest)
      | .wants given last => prepend given (scanFrom parameters (some last) rest)
      | .stopped given name => (given, .stopped name)
      | .misuse => ([], .misuse)

/-- Splits words into parameters and what ends them. -/
def scan (parameters : List Parameter) (words : List String) : Given × Ending :=
  scanFrom parameters none words

namespace Given

/-- All values given for a parameter. -/
def values (given : Given) (name : String) : List String :=
  (given.filter fun entry => entry.1 == name).map (·.2)

/-- Whether a parameter is given; it must not be given twice. -/
def flag? (given : Given) (name : String) : Option Bool :=
  match values given name with
  | [] => some false
  | [_] => some true
  | _ => none

/-- The value of a parameter, if it is given; it must be readable and not be given twice. -/
def single? {α : Type} (given : Given) (name : String) (read : String → Option α) :
    Option (Option α) :=
  match values given name with
  | [] => some none
  | [value] => (read value).map some
  | _ => none

/-- The value of a parameter that must be given. -/
def required? {α : Type} (given : Given) (name : String) (read : String → Option α) : Option α :=
  (single? given name read).join

/-- The values of a parameter that may be given any number of times; all must be readable. -/
def many? {α : Type} (given : Given) (name : String) (read : String → Option α) :
    Option (List α) :=
  (values given name).mapM read

end Given

end HybridRetrieval.CommandLine
