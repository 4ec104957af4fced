/-!
# Shell scripts

Pickers and launched programs are often small shell scripts.  This module reads the part of the
shell language that such scripts use: simple commands with quoting, parameters, the output of other
scripts and arithmetic; redirection; groups, loops, conditions, choices and functions; pipes; and
commands joined by newlines, semicolons, `&&` and `||`.  A text that goes beyond it is read as far as
it goes.
-/

namespace Keyring
namespace Host

/-- What is done with the value of a parameter. -/
inductive Change
  | none
  | length
  | orElse (emptyCounts : Bool)
  | ifSet (emptyCounts : Bool)
  | assign (emptyCounts : Bool)
  | insist (emptyCounts : Bool)
  | dropFront (longest : Bool)
  | dropBack (longest : Bool)
deriving DecidableEq, Repr

/-- Whether the operand of a change is a glob, to which quotation marks around the parameter do not
matter. -/
def Change.takesPattern : Change → Bool
  | .dropFront _ => true
  | .dropBack _ => true
  | _ => false

/-- A piece of a word. -/
inductive Part
  | text (s : List Char) (quoted : Bool)
  | parameter (name : List Char) (quoted : Bool) (change : Change) (operand : List Part)
  | output (script : List Char) (quoted : Bool)
  | arithmetic (expression : List Part) (quoted : Bool)

/-- A word: its pieces in order. -/
abbrev Word := List Part

/-- Where the output or the input of a command is sent. -/
inductive Redirect
  | output (target : Word) (append : Bool)
  | input (origin : Word)
  | here (body : Word)
  | errors (target : Word) (append : Bool)
  | toErrors
  | errorsToOutput

/-- A command. -/
inductive Script
  | simple (line : Nat) (words : List Word) (redirects : List Redirect)
  | group (body : List Script) (redirects : List Redirect)
  | subshell (body : List Script) (redirects : List Redirect)
  | each (name : List Char) (items : List Word) (body : List Script) (redirects : List Redirect)
  | repeated (whileTrue : Bool) (condition body : List Script) (redirects : List Redirect)
  | branch (condition yes no : List Script) (redirects : List Redirect)
  | select (subject : Word) (patterns : List (List Word)) (bodies : List (List Script))
      (redirects : List Redirect)
  | function (name : List Char) (body : Script)
  | chain (first : Script) (whenSuccessful : Bool) (second : Script)
  | pipe (first second : Script)
  | negated (body : Script)

instance : Inhabited Script := ⟨.simple 0 [] []⟩

/-- A token of a script; a word knows its line. -/
inductive Token
  | word (w : Word) (line : Nat)
  | separator
  | caseEnd
  | and
  | or
  | pipe
  | opening
  | closing
  | output (append : Bool)
  | input
  | here (body : Word)
  | errors (append : Bool)
  | toErrors
  | errorsToOutput

namespace Script

/-! ## Words -/

/-- Whether a character may stand in the name of a variable. -/
def isVariableChar (c : Char) : Bool :=
  c.isAlphanum || c == '_'

/-- Whether a character names a parameter by itself. -/
def isParameterChar (c : Char) : Bool :=
  c.isDigit || ['@', '*', '#', '?', '$', '!', '-'].contains c

/-- The text up to the character that closes as many brackets as are open, and what follows it;
`quote` is the quotation mark that is open, if any.  Brackets in quotations do not count. -/
def readBalanced (opens closes : Char) : Nat → Option Char → List Char → List Char × List Char
  | _, _, [] => ([], [])
  | depth, quote, '\\' :: d :: rest =>
      let (inside, after) := readBalanced opens closes depth quote rest
      ('\\' :: d :: inside, after)
  | depth, some q, c :: rest =>
      let (inside, after) := readBalanced opens closes depth (if c = q then none else some q) rest
      (c :: inside, after)
  | depth, none, c :: rest =>
      if c = closes && depth = 0 then ([], rest)
      else
        let depth := if c = closes then depth - 1 else if c = opens then depth + 1 else depth
        let quote := if c = '"' || c = '\'' then some c else none
        let (inside, after) := readBalanced opens closes depth quote rest
        (c :: inside, after)

/-- The text up to a backquote, and what follows it. -/
def readBackquoted : List Char → List Char × List Char
  | [] => ([], [])
  | '`' :: rest => ([], rest)
  | '\\' :: d :: rest =>
      let (inside, after) := readBackquoted rest
      (if ['`', '\\', '$'].contains d then d :: inside else '\\' :: d :: inside, after)
  | c :: rest =>
      let (inside, after) := readBackquoted rest
      (c :: inside, after)

/-- The change that follows the name of a parameter in braces, and its operand. -/
def readChange : List Char → Change × List Char
  | ':' :: '-' :: rest => (.orElse true, rest)
  | ':' :: '+' :: rest => (.ifSet true, rest)
  | ':' :: '=' :: rest => (.assign true, rest)
  | ':' :: '?' :: rest => (.insist true, rest)
  | '-' :: rest => (.orElse false, rest)
  | '+' :: rest => (.ifSet false, rest)
  | '=' :: rest => (.assign false, rest)
  | '?' :: rest => (.insist false, rest)
  | '#' :: '#' :: rest => (.dropFront true, rest)
  | '#' :: rest => (.dropFront false, rest)
  | '%' :: '%' :: rest => (.dropBack true, rest)
  | '%' :: rest => (.dropBack false, rest)
  | _ => (.none, [])

/-- The name at the front of a text in braces. -/
def parameterName (inside : List Char) : List Char :=
  match inside with
  | c :: _ => if isParameterChar c then [c] else inside.takeWhile isVariableChar
  | [] => []

/-- Where the pieces of a word are read: in a bare word, between double quotes, in the operand of a
parameter, or in a document that stands in the script. -/
inductive Place
  | bare
  | quotes
  | operand (quoted : Bool)
  | document
deriving DecidableEq, Repr

/-- Whether what is read there counts as quoted. -/
def Place.isQuoted : Place → Bool
  | .bare => false
  | .quotes => true
  | .operand quoted => quoted
  | .document => true

/-- Whether a character ends a bare word. -/
def endsWord (c : Char) : Bool :=
  [' ', '\t', '\n', ';', '&', '|', '<', '>', '(', ')'].contains c

/-- The characters from which a backslash takes the meaning in a quoted text. -/
def isEscapable (place : Place) (c : Char) : Bool :=
  ['\\', '$', '`'].contains c || (c == '"' && place != .document)

mutual

/-- Reads the pieces of a word; `fuel` bounds their number and `parts` holds those before, the last
one first. -/
def readParts : Nat → Place → List Part → List Char → List Part × List Char
  | 0, _, parts, s => (parts.reverse, s)
  | _ + 1, _, parts, [] => (parts.reverse, [])
  | fuel + 1, place, parts, c :: rest =>
      let quoted := place.isQuoted
      if place = .bare && endsWord c then (parts.reverse, c :: rest)
      else if place = .quotes && c = '"' then (parts.reverse, rest)
      else if c = '$' then
        let (p, rest) := readDollar fuel quoted rest
        readParts fuel place (p :: parts) rest
      else if c = '`' then
        let (inside, rest) := readBackquoted rest
        readParts fuel place (.output inside quoted :: parts) rest
      else if c = '\\' then
        match rest with
        | [] => readParts fuel place (.text [c] quoted :: parts) []
        | d :: rest =>
            if d = '\n' then readParts fuel place parts rest
            else if quoted && !isEscapable place d then
              readParts fuel place (.text [c, d] true :: parts) rest
            else readParts fuel place (.text [d] true :: parts) rest
      else if c = '\'' && !quoted then
        let inside := rest.takeWhile (· != '\'')
        readParts fuel place (.text inside true :: parts) (rest.drop (inside.length + 1))
      else if c = '"' && place != .document then
        let (inside, rest) := readParts fuel .quotes [] rest
        readParts fuel place (inside.reverse ++ .text [] true :: parts) rest
      else readParts fuel place (.text [c] quoted :: parts) rest

/-- Reads what follows a dollar sign. -/
def readDollar : Nat → Bool → List Char → Part × List Char
  | 0, _, s => (.text ['$'] true, s)
  | fuel + 1, quoted, s =>
      match s with
      | '\x7b' :: '#' :: '\x7d' :: rest => (.parameter ['#'] quoted .none [], rest)
      | '\x7b' :: '#' :: c :: rest =>
          let (inside, after) := readBalanced '\x7b' '\x7d' 0 none (c :: rest)
          (.parameter (parameterName inside) quoted .length [], after)
      | '\x7b' :: rest =>
          let (inside, after) := readBalanced '\x7b' '\x7d' 0 none rest
          let name := parameterName inside
          let (change, operand) := readChange (inside.drop name.length)
          let (parts, _) := readParts fuel (.operand (quoted && !change.takesPattern)) [] operand
          (.parameter name quoted change parts, after)
      | '(' :: '(' :: rest =>
          let (inside, after) := readBalanced '(' ')' 0 none rest
          let (parts, _) := readParts fuel (.operand true) [] inside
          (.arithmetic parts quoted, after.drop 1)
      | '(' :: rest =>
          let (inside, after) := readBalanced '(' ')' 0 none rest
          (.output inside quoted, after)
      | c :: rest =>
          if c.isAlpha || c == '_' then
            let name := (c :: rest).takeWhile isVariableChar
            (.parameter name quoted .none [], (c :: rest).drop name.length)
          else if isParameterChar c then (.parameter [c] quoted .none [], rest)
          else (.text ['$'] quoted, c :: rest)
      | [] => (.text ['$'] quoted, [])

end

/-- Reads a whole text as one word. -/
def wordOf (place : Place) (s : List Char) : Word :=
  (readParts (2 * s.length + 2) place [] s).1

/-- The text of a word that consists of nothing else. -/
def literal? : Word → Option (List Char)
  | [] => some []
  | .text s _ :: rest => (literal? rest).map (s ++ ·)
  | _ => none

/-- The text of a word that consists of nothing else and is not quoted. -/
def plain? : Word → Option (List Char)
  | [] => some []
  | .text s false :: rest => (plain? rest).map (s ++ ·)
  | _ => none

/-! ## Tokens -/

/-- The lines of a document up to the one that ends it, and the text after that one. -/
def readDocument (fuel : Nat) (stripped : Bool) (stop s : List Char) : List Char × List Char :=
  match fuel, s with
  | 0, _ => ([], s)
  | _, [] => ([], [])
  | fuel + 1, s =>
      let line := s.takeWhile (· != '\n')
      let rest := s.drop (line.length + 1)
      let line := if stripped then line.dropWhile (· == '\t') else line
      if line = stop then ([], rest)
      else
        let (body, after) := readDocument fuel stripped stop rest
        (line ++ '\n' :: body, after)

/-- The tokens of a script; `fuel` bounds their number. -/
def tokens : Nat → Nat → List Char → List Token
  | 0, _, _ => []
  | _ + 1, _, [] => []
  | fuel + 1, line, c :: rest =>
      match c, rest with
      | ' ', _ => tokens fuel line rest
      | '\t', _ => tokens fuel line rest
      | '\\', '\n' :: rest => tokens fuel (line + 1) rest
      | '\n', _ => .separator :: tokens fuel (line + 1) rest
      | ';', ';' :: rest => .caseEnd :: tokens fuel line rest
      | ';', _ => .separator :: tokens fuel line rest
      | '#', _ => tokens fuel line (rest.dropWhile (· != '\n'))
      | '&', '&' :: rest => .and :: tokens fuel line rest
      | '&', _ => .separator :: tokens fuel line rest
      | '|', '|' :: rest => .or :: tokens fuel line rest
      | '|', _ => .pipe :: tokens fuel line rest
      | '>', '>' :: rest => .output true :: tokens fuel line rest
      | '>', '|' :: rest => .output false :: tokens fuel line rest
      | '>', '&' :: '2' :: rest => .toErrors :: tokens fuel line rest
      | '>', '&' :: '1' :: rest => tokens fuel line rest
      | '>', _ => .output false :: tokens fuel line rest
      | '<', '<' :: rest =>
          let stripped := rest.head? == some '-'
          let rest := (if stripped then rest.drop 1 else rest).dropWhile (· == ' ')
          let (stop, after) := readParts (rest.length + 1) .bare [] rest
          let before := after.takeWhile (· != '\n')
          let (body, after) :=
            readDocument after.length stripped ((literal? stop).getD []) (after.drop (before.length + 1))
          let body := if (plain? stop).isSome then wordOf .document body else [.text body true]
          .here body :: tokens fuel line (before ++ '\n' :: after)
      | '<', _ => .input :: tokens fuel line rest
      | '(', _ => .opening :: tokens fuel line rest
      | ')', _ => .closing :: tokens fuel line rest
      | '2', '>' :: '&' :: '1' :: rest => .errorsToOutput :: tokens fuel line rest
      | '2', '>' :: '>' :: rest => .errors true :: tokens fuel line rest
      | '2', '>' :: rest => .errors false :: tokens fuel line rest
      | '1', '>' :: '&' :: '2' :: rest => .toErrors :: tokens fuel line rest
      | '1', '>' :: '>' :: rest => .output true :: tokens fuel line rest
      | '1', '>' :: rest => .output false :: tokens fuel line rest
      | _, _ =>
          let (parts, after) := readParts (rest.length + 2) .bare [] (c :: rest)
          let passed := ((c :: rest).take (rest.length + 1 - after.length)).count '\n'
          if after.length ≤ rest.length then
            .word parts line :: tokens fuel (line + passed) after
          else tokens fuel line rest

/-- Whether a token is a given reserved word. -/
def isReserved (word : String) : Token → Bool
  | .word w _ => plain? w == some word.toList
  | .opening => word == "("
  | .closing => word == ")"
  | .caseEnd => word == ";;"
  | _ => false

/-- The word among several that a token is. -/
def reserved? (words : List String) (t : Token) : Option String :=
  words.find? fun word => isReserved word t

/-- The tokens after separators. -/
def dropSeparators : List Token → List Token
  | .separator :: rest => dropSeparators rest
  | ts => ts

/-- The tokens after separators and one reserved word, if it comes next. -/
def dropReserved (word : String) (ts : List Token) : List Token :=
  match dropSeparators ts with
  | t :: rest => if isReserved word t then rest else t :: rest
  | [] => []

/-! ## Commands -/

/-- Reads words and redirections up to a token that is neither. -/
def readArguments : List Word → List Redirect → List Token → List Word × List Redirect × List Token
  | words, redirects, .word w _ :: rest => readArguments (w :: words) redirects rest
  | words, redirects, .output append :: .word w _ :: rest =>
      readArguments words (.output w append :: redirects) rest
  | words, redirects, .input :: .word w _ :: rest =>
      readArguments words (.input w :: redirects) rest
  | words, redirects, .here body :: rest => readArguments words (.here body :: redirects) rest
  | words, redirects, .errors append :: .word w _ :: rest =>
      readArguments words (.errors w append :: redirects) rest
  | words, redirects, .toErrors :: rest => readArguments words (.toErrors :: redirects) rest
  | words, redirects, .errorsToOutput :: rest =>
      readArguments words (.errorsToOutput :: redirects) rest
  | words, redirects, rest => (words.reverse, redirects.reverse, rest)

/-- The parameter that stands for all arguments. -/
def allArguments : Word :=
  [.parameter ['@'] true .none []]

/-- Reads the items of a loop; they are the arguments of the script unless others are given. -/
def readItems (ts : List Token) : List Word × List Token :=
  match dropSeparators ts with
  | t :: rest =>
      if isReserved "in" t then
        let (items, _, rest) := readArguments [] [] rest
        (items, rest)
      else ([allArguments], t :: rest)
  | [] => ([], [])

/-- Reads the patterns of a case up to their parenthesis. -/
def readPatterns : List Word → List Token → List Word × List Token
  | patterns, .opening :: rest => readPatterns patterns rest
  | patterns, .word w _ :: rest => readPatterns (w :: patterns) rest
  | patterns, .pipe :: rest => readPatterns patterns rest
  | patterns, .closing :: rest => (patterns.reverse, rest)
  | patterns, rest => (patterns.reverse, rest)

mutual

/-- Reads commands up to one of the reserved words that end them; `fuel` bounds their number. -/
def readAll : Nat → List String → List Token → List Script × Option String × List Token
  | 0, _, ts => ([], none, ts)
  | fuel + 1, close, ts =>
      match dropSeparators ts with
      | [] => ([], none, [])
      | t :: rest =>
          match reserved? close t with
          | some word => ([], some word, rest)
          | none =>
              let (first, after) := readPipe fuel (t :: rest)
              let (joined, after) := readChain fuel first after
              let (others, word, after) := readAll fuel close after
              (joined :: others, word, after)

/-- Reads the commands that are joined to one by `&&` and `||`. -/
def readChain : Nat → Script → List Token → Script × List Token
  | fuel + 1, first, .and :: rest =>
      let (second, rest) := readPipe fuel (dropSeparators rest)
      readChain fuel (.chain first true second) rest
  | fuel + 1, first, .or :: rest =>
      let (second, rest) := readPipe fuel (dropSeparators rest)
      readChain fuel (.chain first false second) rest
  | _, first, ts => (first, ts)

/-- Reads commands that are joined by pipes. -/
def readPipe : Nat → List Token → Script × List Token
  | 0, ts => (default, ts)
  | fuel + 1, ts =>
      match ts with
      | t :: rest =>
          if isReserved "!" t then
            let (body, rest) := readPipe fuel rest
            (.negated body, rest)
          else
            let (first, rest) := readOne fuel (t :: rest)
            match rest with
            | .pipe :: rest =>
                let (second, rest) := readPipe fuel (dropSeparators rest)
                (.pipe first second, rest)
            | rest => (first, rest)
      | [] => (default, [])

/-- Reads what follows a condition: the commands for its success, and those for its failure. -/
def readBranches : Nat → List Token → List Script × List Script × List Token
  | 0, ts => ([], [], ts)
  | fuel + 1, ts =>
      match readAll fuel ["elif", "else", "fi"] ts with
      | (yes, some "elif", rest) =>
          let (condition, _, rest) := readAll fuel ["then"] rest
          let (inner, no, rest) := readBranches fuel rest
          (yes, [.branch condition inner no []], rest)
      | (yes, some "else", rest) =>
          let (no, _, rest) := readAll fuel ["fi"] rest
          (yes, no, rest)
      | (yes, _, rest) => (yes, [], rest)

/-- Reads the cases of a choice. -/
def readCases : Nat → List Token → List (List Word) × List (List Script) × List Token
  | 0, ts => ([], [], ts)
  | fuel + 1, ts =>
      match dropSeparators ts with
      | [] => ([], [], [])
      | t :: rest =>
          if isReserved "esac" t then ([], [], rest)
          else
            let (patterns, rest) := readPatterns [] (t :: rest)
            let (body, word, rest) := readAll fuel [";;", "esac"] rest
            if word == some ";;" then
              let (others, bodies, rest) := readCases fuel rest
              (patterns :: others, body :: bodies, rest)
            else ([patterns], [body], rest)

/-- Reads one command. -/
def readOne : Nat → List Token → Script × List Token
  | 0, ts => (default, ts)
  | fuel + 1, ts =>
      match ts with
      | .word name _ :: .opening :: .closing :: rest =>
          let (body, rest) := readOne fuel (dropSeparators rest)
          (.function ((plain? name).getD []) body, rest)
      | t :: rest =>
          if isReserved "\x7b" t then
            let (body, _, rest) := readAll fuel ["\x7d"] rest
            let (_, redirects, rest) := readArguments [] [] rest
            (.group body redirects, rest)
          else if isReserved "(" t then
            let (body, _, rest) := readAll fuel [")"] rest
            let (_, redirects, rest) := readArguments [] [] rest
            (.subshell body redirects, rest)
          else if isReserved "if" t then
            let (condition, _, rest) := readAll fuel ["then"] rest
            let (yes, no, rest) := readBranches fuel rest
            let (_, redirects, rest) := readArguments [] [] rest
            (.branch condition yes no redirects, rest)
          else if isReserved "while" t || isReserved "until" t then
            let (condition, _, rest) := readAll fuel ["do"] rest
            let (body, _, rest) := readAll fuel ["done"] rest
            let (_, redirects, rest) := readArguments [] [] rest
            (.repeated (isReserved "while" t) condition body redirects, rest)
          else if isReserved "for" t then
            match rest with
            | .word name _ :: rest =>
                let (items, rest) := readItems rest
                let (body, _, rest) := readAll fuel ["done"] (dropReserved "do" rest)
                let (_, redirects, rest) := readArguments [] [] rest
                (.each ((plain? name).getD []) items body redirects, rest)
            | rest => (default, rest)
          else if isReserved "case" t then
            match rest with
            | .word subject _ :: rest =>
                let (patterns, bodies, rest) := readCases fuel (dropReserved "in" rest)
                let (_, redirects, rest) := readArguments [] [] rest
                (.select subject patterns bodies redirects, rest)
            | rest => (default, rest)
          else
            let line := match t with
              | .word _ line => line
              | _ => 0
            let (words, redirects, after) := readArguments [] [] (t :: rest)
            (.simple line words redirects,
              if words.isEmpty && redirects.isEmpty then rest else after)
      | [] => (default, [])

end

/-- Reads a script. -/
def ofText (text : List Char) : List Script :=
  let ts := tokens (text.length + 1) 1 text
  (readAll (4 * ts.length + 8) [] ts).1

end Script
end Host
end Keyring
