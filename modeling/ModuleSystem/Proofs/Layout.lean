import ModuleSystem.Script.Reader

/-! # The layout of scripts

What a script is read as depends on the indentations and the tokens of its lines, and on nothing else: a
grammar of blocks, bodies and handlers says which statements they stand for. A block takes in only rows that
are indented as far as it is, so scripts one below the other stand for their statements one after the
other. -/

namespace ModuleSystem.Script

/-- The indentation and the tokens of a line. -/
structure Row where
  indent : Nat
  tokens : List Token

/-- A line without its number. -/
def Line.row (line : Line) : Row := ⟨line.indent, line.tokens⟩

/-! ## Rows -/

/-- The rows that some lines of characters hold. Blank ones hold none. -/
inductive HoldRows : List (List Char) → List Row → Prop
  | nil : HoldRows [] []
  | blank {chars : List Char} {more : List (List Char)} {rows : List Row}
      (reads : readTokens (chars.length + 1) chars = .ok []) (next : HoldRows more rows) :
      HoldRows (chars :: more) rows
  | row {chars : List Char} {more : List (List Char)} {rows : List Row} {tokens : List Token}
      (reads : readTokens (chars.length + 1) chars = .ok tokens) (filled : tokens ≠ [])
      (next : HoldRows more rows) :
      HoldRows (chars :: more) (⟨columnBehind 0 chars, tokens⟩ :: rows)

namespace HoldRows

variable {pieces more : List (List Char)} {rows rest : List Row}

theorem append (holds : HoldRows pieces rows) (next : HoldRows more rest) :
    HoldRows (pieces ++ more) (rows ++ rest) := by
  induction holds with
  | nil => exact next
  | blank reads _ ih => exact .blank reads ih
  | row reads filled _ ih => exact .row reads filled ih

/-- An empty line in between holds nothing. -/
theorem drop_blank (holds : HoldRows (pieces ++ [] :: more) rows) : HoldRows (pieces ++ more) rows := by
  induction pieces generalizing rows with
  | nil =>
    cases holds with
    | blank _ next => exact next
    | row reads filled _ =>
      cases reads
      exact absurd rfl filled
  | cons chars pieces ih =>
    cases holds with
    | blank reads next => exact .blank reads (ih next)
    | row reads filled next => exact .row reads filled (ih next)

/-- Lines hold the rows that they hold, and no others. -/
theorem unique (holds : HoldRows pieces rows) (also : HoldRows pieces rest) : rows = rest := by
  induction holds generalizing rest with
  | nil =>
    cases also
    rfl
  | blank reads _ ih =>
    cases also with
    | blank _ next => exact ih next
    | row others filled next =>
      rw [reads] at others
      cases others
      exact absurd rfl filled
  | row reads filled _ ih =>
    cases also with
    | blank others next =>
      rw [reads] at others
      cases others
      exact absurd rfl filled
    | row others _ next =>
      rw [reads] at others
      cases others
      rw [ih next]

end HoldRows

/-- What two parts in a row have read, if both of them have. -/
theorem bind_eq_ok {ε α β : Type} {x : Except ε α} {f : α → Except ε β} {b : β}
    (read : (x >>= f) = .ok b) : ∃ a, x = .ok a ∧ f a = .ok b := by
  cases x with
  | error e => cases read
  | ok a => exact ⟨a, rfl, read⟩

theorem holdRows_of_readLines {pieces : List (List Char)} {lines : List Line} {number : Nat}
    (read : readLines number pieces = .ok lines) : HoldRows pieces (lines.map Line.row) := by
  induction pieces generalizing lines number with
  | nil =>
    cases read
    exact .nil
  | cons chars more ih =>
    obtain ⟨tokens, first, read⟩ := bind_eq_ok read
    obtain ⟨others, later, read⟩ := bind_eq_ok read
    have reads : readTokens (chars.length + 1) chars = .ok tokens := by
      cases given : readTokens (chars.length + 1) chars with
      | error left => rw [given] at first; cases first
      | ok found => rw [given] at first; cases first; rfl
    cases read
    split
    · rename_i empty
      rw [List.isEmpty_iff] at empty
      exact .blank (empty ▸ reads) (ih later)
    · rename_i filled
      exact .row reads (by simpa using filled) (ih later)

theorem readLines_cons {chars : List Char} {more : List (List Char)} {tokens : List Token}
    {lines : List Line} {number : Nat} (reads : readTokens (chars.length + 1) chars = .ok tokens)
    (next : readLines (number + 1) more = .ok lines) :
    readLines number (chars :: more) =
      .ok (if tokens.isEmpty then lines else ⟨number, columnBehind 0 chars, tokens⟩ :: lines) := by
  rw [readLines, reads, next]
  rfl

theorem HoldRows.readLines {pieces : List (List Char)} {rows : List Row} (holds : HoldRows pieces rows)
    (number : Nat) : ∃ lines, readLines number pieces = .ok lines ∧ lines.map Line.row = rows := by
  induction holds generalizing number with
  | nil => exact ⟨[], rfl, rfl⟩
  | blank reads _ ih =>
    obtain ⟨lines, later, same⟩ := ih (number + 1)
    exact ⟨lines, readLines_cons reads later, same⟩
  | @row chars _ _ tokens reads filled _ ih =>
    obtain ⟨lines, later, same⟩ := ih (number + 1)
    have empty : tokens.isEmpty = false := by simpa using filled
    refine ⟨⟨number, columnBehind 0 chars, tokens⟩ :: lines, ?_, by simp [Line.row, same]⟩
    rw [readLines_cons reads later, empty, if_neg Bool.false_ne_true]

/-! ## The lines of a text -/

/-- The lines of a text, whatever their ends are. -/
def piecesOf (chars : List Char) : List (List Char) := Text.splitAt '\n' (Text.unifyNewlines chars)

theorem piecesOf_return {c : Char} (lone : c ≠ '\n') (rest : List Char) :
    piecesOf ('\r' :: c :: rest) = [] :: piecesOf (c :: rest) := by
  unfold piecesOf
  rw [Text.unifyNewlines]
  · rfl
  · rintro rest ⟨⟩
    exact lone rfl

theorem piecesOf_cons {c : Char} (feed : c ≠ '\n') (ret : c ≠ '\r') {rest piece : List Char}
    {pieces : List (List Char)} (split : piecesOf rest = piece :: pieces) :
    piecesOf (c :: rest) = (c :: piece) :: pieces := by
  unfold piecesOf at split ⊢
  rw [Text.unifyNewlines, Text.splitAt, if_neg feed, split]
  · rintro rest rfl
    exact absurd rfl ret
  · exact ret

/-- A line feed between two texts ends the last line of the first one, unless that text ends with a
carriage return, which has done so already. -/
theorem piecesOf_append (first second : List Char) :
    ∃ piece pieces, (piecesOf first = piece :: pieces ∨ piecesOf first = piece :: (pieces ++ [[]])) ∧
      piecesOf (first ++ '\n' :: second) = piece :: (pieces ++ piecesOf second) := by
  fun_induction Text.unifyNewlines first with
  | case1 => exact ⟨[], [], .inl rfl, rfl⟩
  | case2 rest ih =>
    obtain ⟨piece, pieces, split, whole⟩ := ih
    exact ⟨[], piece :: pieces, split.imp (congrArg (List.cons [])) (congrArg (List.cons [])),
      congrArg (List.cons []) whole⟩
  | case3 rest lone ih =>
    cases rest with
    | nil => exact ⟨[], [], .inr rfl, rfl⟩
    | cons c tail =>
      have other : c ≠ '\n' := fun feed => lone tail (by rw [feed])
      obtain ⟨piece, pieces, split, whole⟩ := ih
      refine ⟨[], piece :: pieces, ?_, ?_⟩
      · rw [piecesOf_return other]
        exact split.imp (congrArg (List.cons [])) (congrArg (List.cons []))
      · exact (piecesOf_return other _).trans (congrArg (List.cons []) whole)
  | case4 c rest _ ret ih =>
    obtain ⟨piece, pieces, split, whole⟩ := ih
    by_cases feed : c = '\n'
    · subst feed
      exact ⟨[], piece :: pieces, split.imp (congrArg (List.cons [])) (congrArg (List.cons [])),
        congrArg (List.cons []) whole⟩
    · exact ⟨c :: piece, pieces, split.imp (piecesOf_cons feed ret) (piecesOf_cons feed ret),
        piecesOf_cons feed ret whole⟩

theorem HoldRows.piecesOf_append {first second : List Char} {rows rest : List Row}
    (holds : HoldRows (piecesOf first) rows) (next : HoldRows (piecesOf second) rest) :
    HoldRows (piecesOf (first ++ '\n' :: second)) (rows ++ rest) := by
  obtain ⟨piece, pieces, split | split, whole⟩ := Script.piecesOf_append first second
  · rw [whole]
    rw [split] at holds
    exact holds.append next
  · rw [whole]
    rw [split, ← List.cons_append] at holds
    have parted := holds.append next
    rw [List.append_assoc] at parted
    exact parted.drop_blank

/-! ## Blocks -/

mutual

/-- Statements that stand on some rows from an indentation on, up to the end or a row that is indented
less, and the rows behind them. -/
inductive Block : Nat → List Row → List Stmt → List Row → Prop
  | done {indent : Nat} : Block indent [] [] []
  | stop {indent : Nat} {row : Row} {rows : List Row} (less : row.indent < indent) :
      Block indent (row :: rows) [] (row :: rows)
  | attempt {indent : Nat} {tokens : List Token} {rows below behind rest : List Row}
      {body more : List Stmt} {handlers : List Handler} (tried : Body indent tokens rows body below)
      (handled : Handlers indent below handlers behind) (caught : handlers ≠ [])
      (next : Block indent behind more rest) :
      Block indent (⟨indent, .keyword "try" :: .mark ':' :: tokens⟩ :: rows)
        (.attempt body handlers :: more) rest
  | line {indent : Nat} {tokens : List Token} {rows rest : List Row} {statements more : List Stmt}
      (reads : readStatements (tokens.length + 1) tokens = some statements)
      (next : Block indent rows more rest) :
      Block indent (⟨indent, tokens⟩ :: rows) (statements ++ more) rest

/-- Statements that stand behind a heading on its own row, or below it and further in. -/
inductive Body : Nat → List Token → List Row → List Stmt → List Row → Prop
  | sameRow {indent : Nat} {tokens : List Token} {rows : List Row} {statements : List Stmt}
      (filled : tokens ≠ []) (reads : readStatements (tokens.length + 1) tokens = some statements) :
      Body indent tokens rows statements rows
  | nextRows {indent : Nat} {row : Row} {rows rest : List Row} {statements : List Stmt}
      (more : indent < row.indent) (block : Block row.indent (row :: rows) statements rest) :
      Body indent [] (row :: rows) statements rest

/-- Handlers that stand on some rows at an indentation, up to the first row without one. A handler of all
errors is the last one. -/
inductive Handlers : Nat → List Row → List Handler → List Row → Prop
  | done {indent : Nat} : Handlers indent [] [] []
  | stop {indent : Nat} {row : Row} {rows : List Row}
      (other : row.indent = indent → row.tokens.head? ≠ some (.keyword "except")) :
      Handlers indent (row :: rows) [] (row :: rows)
  | handler {indent : Nat} {heading tokens : List Token} {kind : Option Expr} {name : Option String}
      {rows below rest : List Row} {body : List Stmt} {more : List Handler}
      (headed : readHeading heading = some ((kind, name), tokens))
      (handled : Body indent tokens rows body below) (next : Handlers indent below more rest)
      (last : kind = none → more = []) :
      Handlers indent (⟨indent, .keyword "except" :: heading⟩ :: rows) (.mk kind name body :: more) rest

end

mutual

theorem Block.length_le {indent : Nat} {rows rest : List Row} {statements : List Stmt} :
    Block indent rows statements rest → rest.length ≤ rows.length
  | .done => Nat.le_refl _
  | .stop _ => Nat.le_refl _
  | .attempt tried handled _ next =>
    Nat.le_succ_of_le
      (Nat.le_trans next.length_le (Nat.le_trans handled.length_le tried.length_le))
  | .line _ next => Nat.le_succ_of_le next.length_le

theorem Body.length_le {indent : Nat} {tokens : List Token} {rows rest : List Row}
    {statements : List Stmt} : Body indent tokens rows statements rest → rest.length ≤ rows.length
  | .sameRow _ _ => Nat.le_refl _
  | .nextRows _ block => block.length_le

theorem Handlers.length_le {indent : Nat} {rows rest : List Row} {handlers : List Handler} :
    Handlers indent rows handlers rest → rest.length ≤ rows.length
  | .done => Nat.le_refl _
  | .stop _ => Nat.le_refl _
  | .handler _ handled next _ => Nat.le_succ_of_le (Nat.le_trans next.length_le handled.length_le)

end

/-! ## Blocks and the rows behind them -/

/-- The first of some rows begins a statement at the margin. -/
def AtMargin (rows : List Row) : Prop :=
  ∀ row ∈ rows.head?, row.indent = 0 ∧ row.tokens.head? ≠ some (.keyword "except")

variable {others : List Row}

mutual

/-- Rows at the margin do not belong to a block further in. -/
theorem Block.append {indent : Nat} {rows rest : List Row} {statements : List Stmt}
    (margin : AtMargin others) (inside : 0 < indent) :
    Block indent rows statements rest → Block indent (rows ++ others) statements (rest ++ others)
  | .done => by
    cases others with
    | nil => exact .done
    | cons row others => exact .stop (by rw [(margin row rfl).1]; exact inside)
  | .stop less => .stop less
  | .attempt tried handled caught next =>
    .attempt (tried.append margin) (handled.append margin) caught (next.append margin inside)
  | .line reads next => .line reads (next.append margin inside)

theorem Body.append {indent : Nat} {tokens : List Token} {rows rest : List Row}
    {statements : List Stmt} (margin : AtMargin others) :
    Body indent tokens rows statements rest →
      Body indent tokens (rows ++ others) statements (rest ++ others)
  | .sameRow filled reads => .sameRow filled reads
  | .nextRows more block => .nextRows more (block.append margin (Nat.zero_lt_of_lt more))

theorem Handlers.append {indent : Nat} {rows rest : List Row} {handlers : List Handler}
    (margin : AtMargin others) :
    Handlers indent rows handlers rest → Handlers indent (rows ++ others) handlers (rest ++ others)
  | .done => by
    cases others with
    | nil => exact .done
    | cons row others => exact .stop fun _ => (margin row rfl).2
  | .stop other => .stop other
  | .handler headed handled next last => .handler headed (handled.append margin) (next.append margin) last

end

/-- Blocks at the margin one below the other are one block. -/
theorem Block.stack {indent : Nat} {rows rest : List Row} {first second : List Stmt}
    (outermost : indent = 0) (margin : AtMargin others) :
    Block indent rows first rest → Block indent others second [] →
      Block indent (rows ++ others) (first ++ second) []
  | .done, next => next
  | .stop less, _ => absurd (outermost ▸ less) (Nat.not_lt_zero _)
  | .attempt tried handled caught more, next =>
    .attempt (tried.append margin) (handled.append margin) caught (more.stack outermost margin next)
  | .line reads more, next => by
    rw [List.append_assoc]
    exact .line reads (more.stack outermost margin next)

/-! ## Words that begin no expression -/

theorem readItems_keyword (steps : Nat) (word : String) (rest : List Token) :
    readItems steps (.keyword word :: rest) = none := by
  have atom (steps : Nat) : readAtom steps (.keyword word :: rest) = none := by
    cases steps with
    | zero => rfl
    | succ steps => simp [readAtom]
  have signed (steps : Nat) : readSigned steps (.keyword word :: rest) = none := by
    cases steps with
    | zero => rfl
    | succ steps => simp [readSigned, atom]
  have quotient (steps : Nat) : readQuotient steps (.keyword word :: rest) = none := by
    cases steps with
    | zero => rfl
    | succ steps => simp [readQuotient, signed]
  have sum (steps : Nat) : readSum steps (.keyword word :: rest) = none := by
    cases steps with
    | zero => rfl
    | succ steps => simp [readSum, quotient]
  have expr (steps : Nat) : readExpr steps (.keyword word :: rest) = none := by
    cases steps with
    | zero => rfl
    | succ steps => simp [readExpr, sum]
  cases steps with
  | zero => rfl
  | succ steps => simp [readItems, expr]

/-- A word that only begins a compound statement begins no other. -/
theorem readStatements_keyword {word : String} (pass : word ≠ "pass") (raise : word ≠ "raise")
    (steps : Nat) (rest : List Token) : readStatements steps (.keyword word :: rest) = none := by
  cases steps with
  | zero => rfl
  | succ steps => simp [readStatements, readSimple, readItems_keyword, pass, raise]

theorem Block.atMargin {rows : List Row} {statements : List Stmt} :
    Block 0 rows statements [] → AtMargin rows
  | .done => by simp [AtMargin]
  | .attempt _ _ _ _ => by simp [AtMargin]
  | @Block.line _ tokens _ _ _ _ reads _ => by
    rintro row ⟨⟩
    refine ⟨rfl, fun first => ?_⟩
    obtain ⟨rest, rfl⟩ := List.head?_eq_some_iff.mp first
    rw [readStatements_keyword (by decide) (by decide)] at reads
    cases reads

/-! ## What is read -/

/-- With enough steps, what is read is what the rows stand for. A line takes two steps at most: one in its
block, and one for the body that may follow. -/
structure Sound (steps : Nat) : Prop where
  block : ∀ {indent lines statements rest}, 2 * lines.length + 1 ≤ steps →
    readBlock steps indent lines = .ok (statements, rest) →
    Block indent (lines.map Line.row) statements (rest.map Line.row)
  body : ∀ {heading tokens lines statements rest}, 2 * lines.length + 2 ≤ steps →
    readBody steps heading tokens lines = .ok (statements, rest) →
    Body heading.indent tokens (lines.map Line.row) statements (rest.map Line.row)
  handlers : ∀ {indent lines handlers rest}, 2 * lines.length + 1 ≤ steps →
    readHandlers steps indent lines = .ok (handlers, rest) →
    Handlers indent (lines.map Line.row) handlers (rest.map Line.row)

theorem Sound.succ_block {steps indent : Nat} (sound : Sound steps) {lines rest : List Line}
    {statements : List Stmt} (enough : 2 * lines.length + 1 ≤ steps + 1)
    (read : readBlock (steps + 1) indent lines = .ok (statements, rest)) :
    Block indent (lines.map Line.row) statements (rest.map Line.row) := by
  cases lines with
  | nil =>
    cases read
    exact .done
  | cons line lines =>
    simp only [List.length_cons] at enough
    simp only [readBlock] at read
    split at read
    · rename_i less
      cases read
      exact .stop less
    · split at read
      · cases read
      · have same : line.indent = indent := by omega
        split at read
        · rename_i tokens spelled
          obtain ⟨⟨body, below⟩, tried, read⟩ := bind_eq_ok read
          obtain ⟨⟨handlers, behind⟩, handled, read⟩ := bind_eq_ok read
          dsimp only at handled read
          have tried := sound.body (by omega) tried
          have lower := tried.length_le
          rw [List.length_map, List.length_map] at lower
          have handled := sound.handlers (by omega) handled
          have lowest := handled.length_le
          rw [List.length_map, List.length_map] at lowest
          split at read
          · cases read
          · rename_i caught
            obtain ⟨⟨more, last⟩, next, read⟩ := bind_eq_ok read
            cases read
            have next := sound.block (by omega) next
            rw [List.map_cons, Line.row, same, spelled]
            exact .attempt (same ▸ tried) handled (by simpa using caught) next
        · split at read
          · rename_i statements reads
            obtain ⟨⟨more, last⟩, next, read⟩ := bind_eq_ok read
            cases read
            have next := sound.block (by omega) next
            rw [List.map_cons, Line.row, same]
            exact .line reads next
          · cases read

theorem Sound.succ_body {steps : Nat} (sound : Sound steps) {heading : Line} {tokens : List Token}
    {lines rest : List Line} {statements : List Stmt} (enough : 2 * lines.length + 2 ≤ steps + 1)
    (read : readBody (steps + 1) heading tokens lines = .ok (statements, rest)) :
    Body heading.indent tokens (lines.map Line.row) statements (rest.map Line.row) := by
  simp only [readBody] at read
  split at read
  · rename_i empty
    obtain rfl := List.isEmpty_iff.mp empty
    cases lines with
    | nil => cases read
    | cons line lines =>
      dsimp only at read
      split at read
      · rename_i more
        exact .nextRows more (sound.block (by omega) read)
      · cases read
  · rename_i filled
    split at read
    · rename_i reads
      cases read
      exact .sameRow (by simpa using filled) reads
    · cases read

theorem Sound.succ_handlers {steps indent : Nat} (sound : Sound steps) {lines rest : List Line}
    {handlers : List Handler} (enough : 2 * lines.length + 1 ≤ steps + 1)
    (read : readHandlers (steps + 1) indent lines = .ok (handlers, rest)) :
    Handlers indent (lines.map Line.row) handlers (rest.map Line.row) := by
  cases lines with
  | nil =>
    cases read
    exact .done
  | cons line lines =>
    simp only [List.length_cons] at enough
    simp only [readHandlers] at read
    split at read
    · rename_i other
      cases read
      exact .stop fun same => absurd same other
    · rename_i same
      have same : line.indent = indent := Decidable.not_not.mp same
      split at read
      · rename_i heading spelled
        split at read
        · cases read
        · rename_i kind name tokens headed
          obtain ⟨⟨body, below⟩, handled, read⟩ := bind_eq_ok read
          obtain ⟨⟨more, last⟩, next, read⟩ := bind_eq_ok read
          dsimp only at next read
          split at read
          · cases read
          · rename_i ordered
            cases read
            have handled := sound.body (by omega) handled
            have lower := handled.length_le
            rw [List.length_map, List.length_map] at lower
            have next := sound.handlers (by omega) next
            rw [List.map_cons, Line.row, same, spelled]
            exact .handler headed (same ▸ handled) next (by simpa using ordered)
      · rename_i unspelled
        cases read
        refine .stop fun _ first => ?_
        obtain ⟨rest, spelled⟩ := List.head?_eq_some_iff.mp first
        exact unspelled rest spelled

theorem sound (steps : Nat) : Sound steps := by
  induction steps with
  -- without steps nothing is read, but then there are not enough of them
  | zero => exact ⟨by omega, by omega, by omega⟩
  | succ steps ih => exact ⟨ih.succ_block, ih.succ_body, ih.succ_handlers⟩

/-- A reader reads something and leaves lines with some rows. -/
def Reads {α : Type} (read : Except Place (α × List Line)) (a : α) (rest : List Row) : Prop :=
  ∃ left, read = .ok (a, left) ∧ left.map Line.row = rest

/-- With enough steps, what the rows of lines stand for is read. -/
structure Complete (steps : Nat) : Prop where
  block : ∀ {indent rows statements rest lines}, Block indent rows statements rest →
    lines.map Line.row = rows → 2 * lines.length + 1 ≤ steps →
    Reads (readBlock steps indent lines) statements rest
  body : ∀ {heading tokens rows statements rest lines}, Body heading.indent tokens rows statements rest →
    lines.map Line.row = rows → 2 * lines.length + 2 ≤ steps →
    Reads (readBody steps heading tokens lines) statements rest
  handlers : ∀ {indent rows handlers rest lines}, Handlers indent rows handlers rest →
    lines.map Line.row = rows → 2 * lines.length + 1 ≤ steps →
    Reads (readHandlers steps indent lines) handlers rest

theorem length_left {lines left : List Line} {rows rest : List Row} (same : lines.map Line.row = rows)
    (remaining : left.map Line.row = rest) (fewer : rest.length ≤ rows.length) :
    left.length ≤ lines.length := by
  rwa [← same, ← remaining, List.length_map, List.length_map] at fewer

theorem Complete.succ_block {steps indent : Nat} (complete : Complete steps) {rows rest : List Row}
    {statements : List Stmt} {lines : List Line} (block : Block indent rows statements rest)
    (same : lines.map Line.row = rows) (enough : 2 * lines.length + 1 ≤ steps + 1) :
    Reads (readBlock (steps + 1) indent lines) statements rest := by
  cases block with
  | done =>
    obtain rfl := List.map_eq_nil_iff.mp same
    exact ⟨[], rfl, rfl⟩
  | stop less =>
    obtain ⟨line, lines, rfl, rfl, rfl⟩ := List.map_eq_cons_iff.mp same
    exact ⟨line :: lines, by rw [readBlock]; exact if_pos less, rfl⟩
  | attempt tried handled caught next =>
    obtain ⟨line, lines, rfl, row, others⟩ := List.map_eq_cons_iff.mp same
    obtain ⟨rfl, spelled⟩ := Row.mk.inj row
    rw [List.length_cons] at enough
    obtain ⟨below, readTried, lower⟩ := complete.body tried others (by omega)
    have fewer := length_left others lower tried.length_le
    obtain ⟨behind, readHandled, lowest⟩ := complete.handlers handled lower (by omega)
    have fewest := length_left lower lowest handled.length_le
    obtain ⟨left, readNext, remaining⟩ := complete.block next lowest (by omega)
    refine ⟨left, ?_, remaining⟩
    simp [readBlock, spelled, readTried, readHandled, readNext, caught, bind, Except.bind, pure, Except.pure]
  | line reads next =>
    obtain ⟨line, lines, rfl, row, others⟩ := List.map_eq_cons_iff.mp same
    obtain ⟨rfl, rfl⟩ := Row.mk.inj row
    rw [List.length_cons] at enough
    obtain ⟨left, readNext, remaining⟩ := complete.block next others (by omega)
    refine ⟨left, ?_, remaining⟩
    simp only [readBlock, if_neg (Nat.lt_irrefl _), gt_iff_lt]
    split
    · rename_i spelled
      rw [spelled, readStatements_keyword (by decide) (by decide)] at reads
      cases reads
    · simp only [reads, readNext, bind, Except.bind, pure, Except.pure]

theorem Complete.succ_body {steps : Nat} (complete : Complete steps) {heading : Line}
    {tokens : List Token} {rows rest : List Row} {statements : List Stmt} {lines : List Line}
    (body : Body heading.indent tokens rows statements rest) (same : lines.map Line.row = rows)
    (enough : 2 * lines.length + 2 ≤ steps + 1) :
    Reads (readBody (steps + 1) heading tokens lines) statements rest := by
  cases body with
  | sameRow filled reads =>
    refine ⟨lines, ?_, same⟩
    simp only [readBody, List.isEmpty_iff, if_neg filled, reads]
  | nextRows more block =>
    obtain ⟨line, lines, rfl, rfl, rfl⟩ := List.map_eq_cons_iff.mp same
    obtain ⟨left, read, remaining⟩ := complete.block block same (by omega)
    refine ⟨left, ?_, remaining⟩
    simp only [readBody, List.isEmpty_nil, if_true]
    exact (if_pos more).trans read

theorem Complete.succ_handlers {steps indent : Nat} (complete : Complete steps) {rows rest : List Row}
    {handlers : List Handler} {lines : List Line} (block : Handlers indent rows handlers rest)
    (same : lines.map Line.row = rows) (enough : 2 * lines.length + 1 ≤ steps + 1) :
    Reads (readHandlers (steps + 1) indent lines) handlers rest := by
  cases block with
  | done =>
    obtain rfl := List.map_eq_nil_iff.mp same
    exact ⟨[], rfl, rfl⟩
  | stop other =>
    obtain ⟨line, lines, rfl, rfl, rfl⟩ := List.map_eq_cons_iff.mp same
    refine ⟨line :: lines, ?_, rfl⟩
    simp only [readHandlers]
    split
    · rfl
    · rename_i level
      split
      · rename_i spelled
        exact absurd (by rw [Line.row, spelled]; rfl) (other (Decidable.not_not.mp level))
      · rfl
  | handler headed handled next last =>
    obtain ⟨line, lines, rfl, row, others⟩ := List.map_eq_cons_iff.mp same
    obtain ⟨rfl, spelled⟩ := Row.mk.inj row
    rw [List.length_cons] at enough
    obtain ⟨below, readHandled, lower⟩ := complete.body handled others (by omega)
    have fewer := length_left others lower handled.length_le
    obtain ⟨left, readNext, remaining⟩ := complete.handlers next lower (by omega)
    refine ⟨left, ?_, remaining⟩
    simp [readHandlers, spelled, headed, readHandled, readNext, bind, Except.bind, pure, Except.pure]
    exact last

theorem complete (steps : Nat) : Complete steps := by
  induction steps with
  | zero => exact ⟨fun _ _ => by omega, fun _ _ => by omega, fun _ _ => by omega⟩
  | succ steps ih => exact ⟨ih.succ_block, ih.succ_body, ih.succ_handlers⟩

/-! ## Scripts -/

/-- A script is read as the statements that its rows stand for. -/
theorem readScript_eq_ok_iff {source : String} {statements : List Stmt} :
    readScript source = .ok statements ↔
      ∃ rows, HoldRows (piecesOf source.toList) rows ∧ Block 0 rows statements [] := by
  constructor
  · intro read
    obtain ⟨lines, held, read⟩ := bind_eq_ok read
    obtain ⟨⟨found, rest⟩, block, read⟩ := bind_eq_ok read
    cases rest with
    | nil =>
      cases read
      exact ⟨_, holdRows_of_readLines held, (sound _).block (by omega) block⟩
    | cons line rest => cases read
  · rintro ⟨rows, holds, block⟩
    obtain ⟨lines, held, same⟩ := holds.readLines 1
    obtain ⟨left, read, remaining⟩ := (complete (4 * lines.length + 4)).block block same (by omega)
    obtain rfl := List.map_eq_nil_iff.mp remaining
    have held : linesOf source = .ok lines := held
    simp only [readScript, held, read, bind, Except.bind, pure, Except.pure]

theorem toList_newline (first second : String) :
    (first ++ "\n" ++ second).toList = first.toList ++ '\n' :: second.toList := by
  simp [String.toList_append]

/-- One script below another is read as the statements of both. -/
theorem readScript_newline {first second : String} {early late : List Stmt}
    (above : readScript first = .ok early) (below : readScript second = .ok late) :
    readScript (first ++ "\n" ++ second) = .ok (early ++ late) := by
  obtain ⟨rows, holds, block⟩ := readScript_eq_ok_iff.mp above
  obtain ⟨others, next, more⟩ := readScript_eq_ok_iff.mp below
  refine readScript_eq_ok_iff.mpr ⟨rows ++ others, ?_, block.stack rfl more.atMargin more⟩
  rw [toList_newline]
  exact holds.piecesOf_append next

theorem readStatements_of_readItems {tokens : List Token} {e : Expr}
    (read : readItems (stepsFor tokens) tokens = some (e, [])) (steps : Nat) :
    readStatements (steps + 1) tokens = some [.evaluate e] := by
  have simple : readSimple tokens = some (.evaluate e, []) := by
    unfold readSimple
    split
    · rw [readItems_keyword] at read
      cases read
    · rw [readItems_keyword] at read
      cases read
    · simp [read]
  simp [readStatements, simple]

theorem readStatements_ne_nil {steps : Nat} {tokens : List Token} {statements : List Stmt}
    (read : readStatements steps tokens = some statements) : statements ≠ [] := by
  cases steps with
  | zero => cases read
  | succ steps =>
    obtain ⟨⟨statement, rest⟩, _, read⟩ := Option.bind_eq_some_iff.mp read
    dsimp only at read
    split at read
    · cases read
      exact List.cons_ne_nil _ _
    · cases read
      exact List.cons_ne_nil _ _
    · obtain ⟨more, _, read⟩ := Option.bind_eq_some_iff.mp read
      cases read
      exact List.cons_ne_nil _ _
    · cases read

/-- There are statements on all rows. -/
theorem Block.eq_nil {rows : List Row} : Block 0 rows [] [] → rows = [] := by
  intro block
  generalize same : ([] : List Stmt) = statements at block
  cases block with
  | done => rfl
  | attempt => cases same
  | line reads =>
    obtain ⟨empty, _⟩ := List.append_eq_nil_iff.mp same.symm
    exact absurd empty (readStatements_ne_nil reads)

/-- Whether the end of a script is indented can be seen on its last line. -/
theorem endsIndented_newline (first second : String) :
    endsIndented (first ++ "\n" ++ second) = endsIndented second := by
  obtain ⟨piece, pieces, _, whole⟩ := piecesOf_append first.toList second.toList
  have last : (piecesOf (first ++ "\n" ++ second).toList).getLast? = (piecesOf second.toList).getLast? := by
    rw [toList_newline, whole, ← List.cons_append, List.getLast?_append]
    cases found : (piecesOf second.toList).getLast? with
    | none => exact absurd (List.getLast?_eq_none_iff.mp found) (Text.splitAt_ne_nil _ _)
    | some chars => rfl
  unfold piecesOf at last
  unfold endsIndented
  rw [last]

/-- A script is an expression if it stands on one row at the margin, and if its end is not indented. -/
theorem readExpression?_eq_some_iff {source : String} {e : Expr} :
    readExpression? source = some e ↔ endsIndented source = false ∧
      ∃ tokens, HoldRows (piecesOf source.toList) [⟨0, tokens⟩] ∧
        readItems (stepsFor tokens) tokens = some (e, []) := by
  constructor
  · intro read
    unfold readExpression? at read
    split at read
    · rename_i line held
      split at read
      · cases read
      · rename_i margin
        rw [Bool.or_eq_true, not_or] at margin
        have outermost : line.indent = 0 := by simpa using margin.1
        have holds : HoldRows _ [line.row] := holdRows_of_readLines held
        rw [Line.row, outermost] at holds
        split at read
        · cases read
          exact ⟨Bool.eq_false_iff.mpr margin.2, line.tokens, holds, ‹_›⟩
        · cases read
    · cases read
  · rintro ⟨ends, tokens, holds, items⟩
    obtain ⟨lines, held, same⟩ := holds.readLines 1
    obtain ⟨line, lines, rfl, row, empty⟩ := List.map_eq_cons_iff.mp same
    obtain rfl := List.map_eq_nil_iff.mp empty
    obtain ⟨outermost, rfl⟩ := Row.mk.inj row
    have held : linesOf source = .ok [line] := held
    simp [readExpression?, held, outermost, ends, items]

/-- A script that is an expression is also the statement to evaluate it. -/
theorem readScript_of_readExpression? {source : String} {e : Expr}
    (read : readExpression? source = some e) : readScript source = .ok [.evaluate e] := by
  obtain ⟨_, tokens, holds, items⟩ := readExpression?_eq_some_iff.mp read
  exact readScript_eq_ok_iff.mpr ⟨_, holds, .line (readStatements_of_readItems items _) .done⟩

/-- A script below one without statements is an expression if it is one by itself. -/
theorem readExpression?_newline {first second : String} {late : List Stmt} (above : readScript first = .ok [])
    (below : readScript second = .ok late) :
    readExpression? (first ++ "\n" ++ second) = readExpression? second := by
  obtain ⟨rows, holds, block⟩ := readScript_eq_ok_iff.mp above
  obtain ⟨others, next, _⟩ := readScript_eq_ok_iff.mp below
  obtain rfl := block.eq_nil
  have joined := toList_newline first second ▸ holds.piecesOf_append next
  refine Option.ext fun e => ?_
  rw [readExpression?_eq_some_iff, readExpression?_eq_some_iff, endsIndented_newline]
  refine and_congr_right fun _ => exists_congr fun tokens => and_congr_left fun _ =>
    ⟨fun held => ?_, fun held => ?_⟩
  · rw [← joined.unique held]
    exact next
  · rw [← next.unique held]
    exact joined

end ModuleSystem.Script
