import ProgramTrace.Host.Shell.Source

/-!
# `ProgramTrace.Host.Shell.Reader` — reading scripts.

A script is read command by command, each as far as the end of its line, since what a command does comes
before a mistake on a later line is noticed.  The reader of words and the reader of commands call each
other: a command substitution ends where the command in it ends.  Each call takes one step from a bound
that is taken from the length of the script.
-/

namespace ProgramTrace.Host.Shell

namespace Reading

/-! ## Contexts -/

/-- What ends the pieces that are being read. -/
inductive Closer where
  /-- A character that ends a word. -/
  | wordEnd
  | brace
  | quote
  /-- Two closing parentheses, with a number of parentheses open. -/
  | parentheses (depth : Nat)
  /-- The end of a text for a stream. -/
  | documentEnd
  deriving DecidableEq, Repr

/-- Where pieces stand. -/
structure Context where
  quoted : Bool
  closer : Closer
  /-- Whether this is inside a text for a stream. -/
  inDocument : Bool
  /-- Whether dollars and backquotes mean nothing. -/
  plain : Bool
  deriving DecidableEq, Repr

/-- The context of a word. -/
def Context.word : Context := ⟨false, .wordEnd, false, false⟩

/-- What the end of the script means in a context: the end of the pieces, or a mistake. -/
def Context.atEnd (c : Context) : Reading Word :=
  match c.closer with
  | .wordEnd | .documentEnd => return []
  | .quote => mistake "Syntax error: Unterminated quoted string".toList
  | .parentheses _ => mistake "Syntax error: Missing '))'".toList
  | .brace =>
    if c.quoted && !c.inDocument then mistake "Syntax error: Unterminated quoted string".toList
    else mistake "Syntax error: Missing '\x7d'".toList

/-- Whether a backslash stays before a character. -/
def Context.keepsBackslash (c : Context) (d : Char) : Bool :=
  c.quoted && d != '\\' && d != backquote && d != '$' &&
    (d != '"' || c.closer = .documentEnd) && (d != '\x7d' || c.closer ≠ .brace)

/-- Whether a character means nothing but itself in a context. -/
def Context.isLiteral (ctx : Context) (c : Char) : Bool :=
  c != '\\' && c != '$' && c != backquote && c != '"' && c != '\x7d' && c != '(' && c != ')' &&
    (c != '\'' || ctx.quoted) && (ctx.closer ≠ .wordEnd || !endsWord c)

/-- The pieces between quotes as a part of a word, which is there even if it is empty, except for the
list of all arguments. -/
def quotedWord : Word → Word
  | [.parameter true ['@'] .value w] => [.parameter true ['@'] .value w]
  | w => .text true [] :: w

/-- The text between backquotes, in which a backslash takes its meaning from the next character, and the
rest.  Nothing if the second one is missing. -/
def betweenBackquotes (quoted : Bool) : Octets → Option (Octets × Octets)
  | [] => none
  | '\\' :: '\n' :: rest => betweenBackquotes quoted rest
  | '\\' :: c :: rest =>
    let dropped := c == '\\' || c == backquote || c == '$' || (quoted && c == '"')
    (betweenBackquotes quoted rest).map fun r => ((if dropped then [c] else ['\\', c]) ++ r.1, r.2)
  | c :: rest =>
    if c = backquote then some ([], rest)
    else (betweenBackquotes quoted rest).map fun r => (c :: r.1, r.2)

/-! ## Texts for streams -/

/-- Whether a line ends with a backslash that hides its end. -/
def hidesEnd (line : Octets) : Bool := (line.reverse.takeWhile (· = '\\')).length % 2 = 1

/-- The lines up to an ending, joined, and what is left after it. -/
def documentText (a : Awaited) : Nat → Bool → Octets → Octets × Octets
  | 0, _, t => ([], t)
  | _, _, [] => ([], [])
  | fuel + 1, joined, t =>
    let line := t.takeWhile (· ≠ '\n')
    let rest := t.drop (line.length + 1)
    let shown := if a.untabbed && !joined then line.dropWhile (· = '\t') else line
    if !joined && shown = a.ending then ([], rest)
    else
      let (more, rest) := documentText a fuel (a.expanded && hidesEnd line) rest
      (shown ++ (if line.length < t.length then ['\n'] else []) ++ more, rest)

/-- How lists of commands end: at a line end, or at a token that ends lists, before which there has to be
a command unless the list may be empty. -/
inductive Extent where
  | line
  | block
  | optional
  deriving DecidableEq, Repr

/-! ## Words and commands -/

mutual

/-- The pieces as far as what closes them in a context. -/
def pieces : Nat → Context → Reading Word
  | 0, _ => mistake "Script too long".toList
  | fuel + 1, ctx => do
    skipJoins
    match (← get).rest with
    | [] => ctx.atEnd
    | c :: rest =>
      let literal : Reading Word := do
        advance 1
        return .text ctx.quoted [c] :: (← pieces fuel ctx)
      if c = '\\' then
        match rest with
        | [] =>
          advance 1
          return .text true [c] :: (← pieces fuel ctx)
        | d :: _ =>
          advance 2
          return .text true (if ctx.keepsBackslash d then [c, d] else [d]) :: (← pieces fuel ctx)
      else if c = '\'' && !ctx.quoted then
        let inner := rest.takeWhile (· ≠ '\'')
        advance (inner.length + 1)
        if (← get).rest.isEmpty then mistake "Syntax error: Unterminated quoted string".toList
        advance 1
        return .text true inner :: (← pieces fuel ctx)
      else if c = '"' then
        match ctx.closer with
        | .quote =>
          advance 1
          return []
        | .documentEnd | .parentheses _ => literal
        | .wordEnd | .brace =>
          advance 1
          let inner ← pieces fuel { ctx with quoted := true, closer := .quote }
          let inner := if ctx.quoted then inner else quotedWord inner
          return inner ++ (← pieces fuel ctx)
      else if c = '$' && !ctx.plain then
        advance 1
        let piece ← dollar fuel ctx
        return piece :: (← pieces fuel ctx)
      else if c = backquote && !ctx.plain then
        match betweenBackquotes ctx.quoted rest with
        | none =>
          advance (rest.length + 1)
          mistake "Syntax error: EOF in backquote substitution".toList
        | some (inner, left) =>
          let line := (← get).line
          advance (rest.length + 1 - left.length)
          enclosed fuel inner line
          return .substitution ctx.quoted line inner :: (← pieces fuel ctx)
      else match ctx.closer, c with
        | .brace, '\x7d' =>
          advance 1
          return []
        | .parentheses depth, '(' =>
          advance 1
          return .text ctx.quoted [c] ::
            (← pieces fuel { ctx with closer := .parentheses (depth + 1) })
        | .parentheses depth, ')' =>
          advance 1
          match depth with
          | depth + 1 =>
            return .text ctx.quoted [c] :: (← pieces fuel { ctx with closer := .parentheses depth })
          | 0 =>
            if (← upcoming) = some ')' then
              advance 1
              return []
            else return .text ctx.quoted [c] :: (← pieces fuel ctx)
        | .wordEnd, c => if endsWord c then return [] else literalRun fuel ctx
        | _, _ => literalRun fuel ctx

/-- Pieces that begin with characters that mean nothing but themselves, the first of them in any
case. -/
def literalRun : Nat → Context → Reading Word
  | 0, _ => mistake "Script too long".toList
  | fuel + 1, ctx => do
    let first := (← get).rest.take 1
    advance 1
    let more ← takeRun ctx.isLiteral
    return .text ctx.quoted (first ++ more) :: (← pieces fuel ctx)

/-- The piece that a dollar begins. -/
def dollar : Nat → Context → Reading Piece
  | 0, _ => mistake "Script too long".toList
  | fuel + 1, ctx => do
    match ← upcoming with
    | some '(' =>
      advance 1
      if (← upcoming) = some '(' then
        advance 1
        return .arithmetic ctx.quoted (← pieces fuel ⟨true, .parentheses 0, false, false⟩)
      else
        let start ← get
        set { start with awaited := [] }
        let _ ← list fuel .optional true
        let t ← token fuel .start
        if !t.isOperator ")" then unexpected (some (.operator [')']))
        let after ← get
        set { after with awaited := start.awaited }
        return .substitution ctx.quoted start.line
          (start.rest.take (start.rest.length - after.rest.length - 1))
    | some '\x7b' =>
      advance 1
      braced fuel ctx
    | some c =>
      if Word.isNameStart c then
        return .parameter ctx.quoted (← takeRun Word.isNameCharacter) .value []
      else if c.isDigit || isSpecialParameter c then
        advance 1
        return .parameter ctx.quoted [c] .value []
      else return .text ctx.quoted ['$']
    | none => return .text ctx.quoted ['$']

/-- A parameter between braces, from what follows the opening one on. -/
def braced : Nat → Context → Reading Piece
  | 0, _ => mistake "Script too long".toList
  | fuel + 1, ctx => do
    skipJoins
    match (← get).rest with
    | '#' :: '\x7d' :: _ =>
      advance 2
      return .parameter ctx.quoted ['#'] .value []
    | '#' :: c :: rest =>
      if Word.isNameCharacter c then
        advance 1
        let name ← takeRun (if c.isDigit then Char.isDigit else Word.isNameCharacter)
        if (← upcoming) = some '\x7d' then
          advance 1
          return .parameter ctx.quoted name .length []
        else usedAs fuel ctx name .unknown
      else if isSpecialParameter c && rest.head? = some '\x7d' then
        advance 3
        return .parameter ctx.quoted [c] .length []
      else
        advance 1
        operation fuel ctx ['#']
    | c :: _ =>
      if Word.isNameStart c then
        let name ← takeRun Word.isNameCharacter
        operation fuel ctx name
      else if c.isDigit then
        let name ← takeRun Char.isDigit
        operation fuel ctx name
      else if isSpecialParameter c then
        advance 1
        operation fuel ctx [c]
      else usedAs fuel ctx [] .unknown
    | [] => usedAs fuel ctx [] .unknown

/-- What is done with the parameter between braces. -/
def operation : Nat → Context → Octets → Reading Piece
  | 0, _, _ => mistake "Script too long".toList
  | fuel + 1, ctx, name => do
    skipJoins
    let use? (orEmpty : Bool) : Char → Option Use
      | '-' => some (.otherwise orEmpty)
      | '=' => some (.assign orEmpty)
      | '?' => some (.demand orEmpty)
      | '+' => some (.alternative orEmpty)
      | _ => none
    match (← get).rest with
    | '\x7d' :: _ =>
      advance 1
      return .parameter ctx.quoted name .value []
    | ':' :: '\x7d' :: _ =>
      advance 2
      return .parameter ctx.quoted name .value []
    | '%' :: '%' :: _ =>
      advance 2
      usedAs fuel ctx name (.trim true true)
    | '%' :: _ =>
      advance 1
      usedAs fuel ctx name (.trim true false)
    | '#' :: '#' :: _ =>
      advance 2
      usedAs fuel ctx name (.trim false true)
    | '#' :: _ =>
      advance 1
      usedAs fuel ctx name (.trim false false)
    | ':' :: c :: _ =>
      advance 2
      usedAs fuel ctx name ((use? true c).getD .unknown)
    | c :: _ =>
      advance 1
      usedAs fuel ctx name ((use? false c).getD .unknown)
    | [] => usedAs fuel ctx name .unknown

/-- A parameter whose use takes a word, up to the closing brace. -/
def usedAs : Nat → Context → Octets → Use → Reading Piece
  | 0, _, _, _ => mistake "Script too long".toList
  | fuel + 1, ctx, name, use => do
    let quoted := match use with
      | .trim .. => false
      | _ => ctx.quoted
    let word ← pieces fuel { ctx with quoted, closer := .brace }
    return .parameter ctx.quoted name use word.compact

/-- Reads a script in a script on its own, to find mistakes in it. -/
def enclosed : Nat → Octets → Nat → Reading Unit
  | 0, _, _ => mistake "Script too long".toList
  | fuel + 1, script, line => do
    let outer ← get
    set { outer with rest := script, line, awaited := [], returned := none }
    let _ ← list fuel .optional true
    set outer

/-- The texts for streams that have been awaited, from here on. -/
def documentsHere : Nat → Reading Unit
  | 0 => mistake "Script too long".toList
  | fuel + 1 => do
    let s ← get
    match s.awaited with
    | [] => return
    | a :: awaited =>
      let (text, rest) := documentText a (s.rest.length + 1) false s.rest
      let line := s.line + (s.rest.take (s.rest.length - rest.length)).count '\n'
      let word ←
        if a.expanded then do
          set { s with rest := text, awaited := [] }
          let w ← pieces fuel ⟨true, .documentEnd, true, false⟩
          pure w.compact
        else pure [.text true text]
      modify fun t => { t with
        rest, line, awaited
        documents := (a.number, word) :: s.documents }
      documentsHere fuel

/-- The next token, whatever was put back. -/
def freshToken : Nat → Reading Token
  | 0 => mistake "Script too long".toList
  | fuel + 1 => do
    skipJoins
    match (← get).rest with
    | [] =>
      documentsHere fuel
      return .eof
    | c :: rest =>
      if c = ' ' ∨ c = '\t' then
        advance 1
        freshToken fuel
      else if c = '#' then
        let _ ← takeRun (· ≠ '\n')
        freshToken fuel
      else if c = '\n' then
        advance 1
        documentsHere fuel
        return .newline
      else match operators.find? (·.isPrefixOf (c :: rest)) with
        | some o =>
          advance o.length
          return .operator o
        | none => do
          let w := (← pieces fuel .word).compact
          let stream? : Option (Option Nat) := match w with
            | [] => some none
            | [.text false [d]] => if d.isDigit then some (some (d.toNat - '0'.toNat)) else none
            | _ => none
          match stream?, (← get).rest.head? with
          | some n, some d =>
            if d = '<' ∨ d = '>' then
              let (kind, untabbed, usual) ← redirecting
              return .redirection (n.getD usual) kind untabbed
            else return .word w (isQuoted w)
          | _, _ => return .word w (isQuoted w)

/-- The next token. -/
def token : Nat → Expecting → Reading Token
  | 0, _ => mistake "Script too long".toList
  | fuel + 1, x => do
    let s ← get
    let t ← match s.returned with
      | some t => do
        set { s with returned := none }
        pure t
      | none => freshToken fuel
    modify fun s => { s with last := t }
    match t with
    | .newline => if x.passLines then token fuel x else return t
    | .word w false =>
      match w.bare? with
      | none => return t
      | some name =>
        if x.keywords && keywords.contains name then
          let t := Token.keyword name
          modify fun s => { s with last := t }
          return t
        else
          let s ← get
          let left := s.rest.length
          let busy := s.replaced.any fun r => r.1 == name && r.2 ≤ left
          match (if x.aliases && !busy then s.aliases.lookup name else none) with
          | some value =>
            set { s with rest := value ++ s.rest, replaced := (name, left) :: s.replaced }
            token fuel x
          | none => return t
    | _ => return t

/-- A list of commands. -/
def list : Nat → Extent → Bool → Reading Command
  | 0, _, _ => mistake "Script too long".toList
  | fuel + 1, extent, first => do
    let t ← token fuel { Expecting.start with passLines := extent ≠ .line }
    match t with
    | .newline => return .nothing
    | .eof =>
      putBack
      return .nothing
    | _ =>
      putBack
      if t.endsList && extent ≠ .line && (extent = .optional || !first) then return .nothing
      else
        let line := (← get).line
        let c ← chain fuel
        let t ← token fuel .nothing
        match t with
        | .operator ['&'] =>
          return .sequence (.background line c) (← list fuel extent false)
        | .operator [';'] => return .sequence c (← list fuel extent false)
        | .newline =>
          putBack
          match ← list fuel extent false with
          | .nothing => return c
          | more => return .sequence c more
        | .eof =>
          putBack
          return c
        | _ =>
          if extent = .line then unexpected none
          else
            putBack
            return c

/-- Pipelines joined by `&&` and `||`. -/
def chain : Nat → Reading Command
  | 0 => mistake "Script too long".toList
  | fuel + 1 => do
    let c ← pipeline fuel .start
    chainMore fuel c

/-- What follows a pipeline in a chain. -/
def chainMore : Nat → Command → Reading Command
  | 0, _ => mistake "Script too long".toList
  | fuel + 1, c => do
    let t ← token fuel .nothing
    if t.isOperator "&&" then
      chainMore fuel (.both c (← pipeline fuel .continued))
    else if t.isOperator "||" then
      chainMore fuel (.either c (← pipeline fuel .continued))
    else
      putBack
      return c

/-- A pipeline, which `!` may negate. -/
def pipeline : Nat → Expecting → Reading Command
  | 0, _ => mistake "Script too long".toList
  | fuel + 1, x => do
    let t ← token fuel x
    if t.isKeyword "!" then
      let c ← command fuel .start
      return .negated (← pipelineMore fuel c)
    else
      putBack
      let c ← command fuel x
      pipelineMore fuel c

/-- What follows a command in a pipeline. -/
def pipelineMore : Nat → Command → Reading Command
  | 0, _ => mistake "Script too long".toList
  | fuel + 1, c => do
    let t ← token fuel .nothing
    if t.isOperator "|" then
      let next ← command fuel .continued
      return .pipe c (← pipelineMore fuel next)
    else
      putBack
      return c

/-- Reads a list of commands and the reserved word after it. -/
def block : Nat → String → Reading Command
  | 0, _ => mistake "Script too long".toList
  | fuel + 1, closer => do
    let c ← list fuel .block true
    let t ← token fuel .start
    if t.isKeyword closer then return c else unexpected (some (.keyword closer.toList))

/-- One command with its redirections. -/
def command : Nat → Expecting → Reading Command
  | 0, _ => mistake "Script too long".toList
  | fuel + 1, x => do
    let line := (← get).line
    let t ← token fuel x
    match t with
    | .word .. | .redirection .. =>
      putBack
      simple fuel line [] [] []
    | .operator ['('] =>
      let c ← list fuel .block true
      let t ← token fuel .start
      if !t.isOperator ")" then unexpected (some (.operator [')']))
      return .subshell line c (← redirections fuel .start)
    | .keyword k =>
      let c ←
        if k = ['\x7b'] then block fuel "\x7d"
        else if k = "if".toList then choice fuel
        else if k = "while".toList || k = "until".toList then do
          let condition ← block fuel "do"
          let body ← block fuel "done"
          pure (Command.loop (k = "until".toList) condition body)
        else if k = "for".toList then loopOver fuel line
        else if k = "case".toList then distinction fuel line
        else unexpected none
      match ← redirections fuel .start with
      | [] => return c
      | rs => return .redirected line c rs
    | _ => unexpected none

/-- What follows `if` or `elif`. -/
def choice : Nat → Reading Command
  | 0 => mistake "Script too long".toList
  | fuel + 1 => do
    let condition ← block fuel "then"
    let yes ← list fuel .block true
    let t ← token fuel .start
    if t.isKeyword "elif" then return .choice condition yes (← choice fuel)
    else if t.isKeyword "else" then return .choice condition yes (← block fuel "fi")
    else if t.isKeyword "fi" then return .choice condition yes .nothing
    else unexpected (some (.keyword "fi".toList))

/-- What follows `for`. -/
def loopOver : Nat → Nat → Reading Command
  | 0, _ => mistake "Script too long".toList
  | fuel + 1, line => do
    let bad : Reading Octets := mistake "Syntax error: Bad for loop variable".toList
    let name ← match ← token fuel .nothing with
      | .word w false => match w.bare? with
        | some name => if Word.isName name then pure name else bad
        | none => bad
      | _ => bad
    let t ← token fuel .continued
    let words ←
      if t.isKeyword "in" then do
        let ws ← wordsHere fuel
        let s ← get
        match s.last with
        | .newline | .operator [';'] => pure ws
        | _ => unexpected none
      else do
        if !t.isOperator ";" then putBack
        pure [[.parameter true ['@'] .value []]]
    let t ← token fuel .continued
    if !t.isKeyword "do" then unexpected (some (.keyword "do".toList))
    return .each line name words (← block fuel "done")

/-- The words that come next, up to another token. -/
def wordsHere : Nat → Reading (List Word)
  | 0 => mistake "Script too long".toList
  | fuel + 1 => do
    match ← token fuel .nothing with
    | .word w _ => return w :: (← wordsHere fuel)
    | _ => return []

/-- What follows `case`. -/
def distinction : Nat → Nat → Reading Command
  | 0, _ => mistake "Script too long".toList
  | fuel + 1, line => do
    match ← token fuel .nothing with
    | .word subject _ =>
      let t ← token fuel .continued
      if !t.isKeyword "in" then unexpected (some (.keyword "in".toList))
      return .select line subject (← branches fuel)
    | _ => unexpected (some (.word [] false))

/-- The branches of a case distinction. -/
def branches : Nat → Reading Command
  | 0 => mistake "Script too long".toList
  | fuel + 1 => do
    let t ← token fuel ⟨true, true, false⟩
    if t.isKeyword "esac" then return .nothing
    else
      if !t.isOperator "(" then putBack
      let ps ← patterns fuel
      let body ← list fuel .optional true
      let t ← token fuel ⟨true, true, false⟩
      if t.isKeyword "esac" then return .branch ps body .nothing
      else if t.isOperator ";;" then return .branch ps body (← branches fuel)
      else unexpected (some (.operator [';', ';']))

/-- The patterns of a branch, as far as the parenthesis after them. -/
def patterns : Nat → Reading (List Word)
  | 0 => mistake "Script too long".toList
  | fuel + 1 => do
    let w ← match ← token fuel .nothing with
      | .word w _ => pure w
      | .keyword k => pure [.text false k]
      | _ => pure []
    let t ← token fuel .nothing
    if t.isOperator "|" then return w :: (← patterns fuel)
    else if t.isOperator ")" then return [w]
    else unexpected (some (.operator [')']))

/-- The redirections that come next. -/
def redirections : Nat → Expecting → Reading (List Redirection)
  | 0, _ => mistake "Script too long".toList
  | fuel + 1, x => do
    match ← token fuel x with
    | .redirection stream kind untabbed =>
      let r ← redirection fuel stream kind untabbed
      return r :: (← redirections fuel x)
    | _ =>
      putBack
      return []

/-- A redirection, from the word after its operator on. -/
def redirection : Nat → Nat → Redirecting → Bool → Reading Redirection
  | 0, _, _, _ => mistake "Script too long".toList
  | fuel + 1, stream, kind, untabbed => do
    match kind with
    | .document _ =>
      let t ← freshPlain fuel
      match t with
      | .word w quoted =>
        let s ← get
        let ending := w.flatMap fun p => match p with
          | .text _ t => t
          | _ => []
        let number := s.nextDocument
        set { s with
          nextDocument := number + 1
          awaited := s.awaited ++ [Awaited.mk number ending untabbed !quoted] }
        return ⟨stream, .document number, []⟩
      | _ => unexpected none
    | kind =>
      match ← token fuel .nothing with
      | .word w _ => return ⟨stream, kind, w⟩
      | _ => unexpected none

/-- The word that ends a text for a stream, in which dollars and backquotes mean nothing. -/
def freshPlain : Nat → Reading Token
  | 0 => mistake "Script too long".toList
  | fuel + 1 => do
    let _ ← takeRun fun c => c = ' ' || c = '\t'
    match (← get).rest.head? with
    | some c =>
      if endsWord c then token fuel .nothing
      else
        let w := (← pieces fuel ⟨false, .wordEnd, false, true⟩).compact
        return .word w (isQuoted w)
    | none => token fuel .nothing

/-- A simple command: assignments, words and redirections in any order; or the definition of a function,
which begins like one. -/
def simple : Nat → Nat → List (Octets × Word) → List Word → List Redirection → Reading Command
  | 0, _, _, _, _ => mistake "Script too long".toList
  | fuel + 1, line, as, ws, rs => do
    let t ← token fuel ⟨false, false, ws.isEmpty⟩
    match t with
    | .word w _ =>
      match (if ws.isEmpty then w.assignment? else none) with
      | some a => simple fuel line (as ++ [a]) ws rs
      | none => simple fuel line as (ws ++ [w]) rs
    | .redirection stream kind untabbed =>
      let r ← redirection fuel stream kind untabbed
      simple fuel line as ws (rs ++ [r])
    | _ =>
      match t.isOperator "(", as, ws, rs with
      | true, [], [name], [] =>
        let t ← token fuel .nothing
        if !t.isOperator ")" then unexpected (some (.operator [')']))
        match name.bare? with
        | some name =>
          if Word.isName name && !specialNames.contains name then
            return .define name (← command fuel .continued)
          else mistake "Syntax error: Bad function name".toList
        | none => mistake "Syntax error: Bad function name".toList
      | _, _, _, _ =>
        putBack
        return .simple line as ws rs

end

end Reading

/-! ## Scripts -/

/-- How many steps reading what is left may take. -/
def Source.bound (s : Source) : Nat := 16 * s.rest.length + 256

/-- Reads the commands on the next line and on those that belong to it; none at the end. -/
def Source.next (s : Source) : Except Mistake (Option Command × Source) := do
  let (c, s) ← Reading.list s.bound .line true s
  match c, s.last with
  | .nothing, .eof => return (none, s)
  | c, _ => return (some c, s)

/-- Reads the commands of a whole script, as far as they go. -/
def Source.whole (s : Source) : Except Mistake (Command × Source) :=
  Reading.list s.bound .optional true s

end ProgramTrace.Host.Shell
