import PolishCalc.CommandLine.Parser

/-!
# Expressions on the command line

Words of digits and operators as arguments, also those that start with hyphens.

* **options** — no option has a name or a letter that is made of digits and operators
  (`Level.longOption?_eq_none`, `Level.shortOption?_eq_none`);
* **one word** — so where an expression is due such a word is the expression
  (`State.step_expression`), and a level finds the strict option before and after it
  (`State.step_strict`);
* **several words** — the level of a command reads what follows its name (`parseLevel_program`) and
  makes its command of the expression (`parseLevel_nil`), wherever the strict option stands
  (`expression_word`).
-/

namespace PolishCalc.CommandLine

/-- The characters that expressions are written with. -/
def IsSymbolChar (c : Char) : Prop :=
  c.isDigit = true ∨ c ∈ ['+', '-', '*', '/']

instance (c : Char) : Decidable (IsSymbolChar c) :=
  inferInstanceAs (Decidable (_ ∨ _))

/-! ## Options -/

theorem Argument.exists_letter (argument : Argument) :
    ∃ c ∈ argument.long.toList, ¬ IsSymbolChar c := by
  have letter : argument.long.toList.any (fun c => !decide (IsSymbolChar c)) = true := by
    cases argument <;> rfl
  obtain ⟨c, member, other⟩ := List.any_eq_true.mp letter
  exact ⟨c, member, by simpa using other⟩

theorem Argument.not_isSymbolChar_short {argument : Argument} {letter : Char}
    (short : argument.short? = some letter) : ¬ IsSymbolChar letter := by
  cases argument <;> cases short <;> decide

namespace Level

/-- No option is named by digits and operators. -/
theorem longOption?_eq_none (level : Level) {name : List Char}
    (symbols : ∀ c ∈ name, IsSymbolChar c) : level.longOption? name = none := by
  rw [longOption?, List.find?_eq_none]
  intro argument _ named
  obtain ⟨c, member, letter⟩ := argument.exists_letter
  rw [beq_iff_eq] at named
  exact letter (symbols c (named ▸ member))

/-- No digit and no operator is the letter of an option. -/
theorem shortOption?_eq_none (level : Level) {letter : Char} (symbol : IsSymbolChar letter) :
    level.shortOption? letter = none := by
  rw [shortOption?, List.find?_eq_none]
  intro argument _ named
  rw [beq_iff_eq] at named
  exact Argument.not_isSymbolChar_short named symbol

theorem longOption?_strict (level : Level) :
    level.longOption? "strict".toList = some .strict := by
  cases level <;> rfl

end Level

namespace State

/-! ## One word -/

/-- Where an expression is due, a word of digits and operators is not read as options. -/
theorem options_eq_none {state : State} (due : state.allowsHyphen = true) {word : String}
    (symbols : ∀ c ∈ word.toList, IsSymbolChar c) : state.options word = .ok none := by
  rw [options]
  split
  · next rest spelled =>
    -- the word may name an option, and what it names is the part before an equals sign
    have named : ∀ c ∈ rest.takeWhile (· != '='), IsSymbolChar c := by
      intro c member
      apply symbols c
      rw [spelled]
      exact List.mem_cons_of_mem _ (List.mem_cons_of_mem _ (List.takeWhile_subset _ member))
    rw [longOption, state.level.longOption?_eq_none named]
    simp only [due, if_true]
  · rfl
  · next rest _ single spelled =>
    cases rest with
    | nil => exact absurd rfl single
    | cons letter rest =>
        have symbol : IsSymbolChar letter := by
          apply symbols letter
          rw [spelled]
          exact List.mem_cons_of_mem _ List.mem_cons_self
        have unknown : state.level.shortOption? letter = none :=
          state.level.shortOption?_eq_none symbol
        rw [shortOptions]
        simp only [due, List.any_cons, unknown, Option.isNone_none, Bool.true_or, Bool.and_true,
          if_true]
  · rfl

/-- A word of digits and operators is the expression that is due. -/
theorem step_expression {level : Level} (due : level.positionals[0]? = some .expression)
    (given : Given) {word : String} (symbols : ∀ c ∈ word.toList, IsSymbolChar c)
    (other : word ≠ "--") :
    ({ level, given } : State).step word =
      .ok { level, given, pending := some ⟨.expression, some word⟩, position := 1 } := by
  have hyphen : ({ level, given } : State).allowsHyphen = true := by
    simp only [allowsHyphen, due]
    rfl
  simp only [step, Bool.false_eq_true, if_false, other, options_eq_none hyphen symbols]
  show positional _ word = _
  simp only [positional, due]
  rfl

theorem take_strict {given : Given} (fresh : given.strict = false) (level : Level) :
    given.take level .strict none = .ok { given with strict := true } := by
  simp only [Given.take, fresh]
  rfl

/-- The strict option is taken once the argument before it is. -/
theorem step_strict {state settled : State} (opened : state.onlyPositionals = false)
    (before : state.settle = .ok settled) (fresh : settled.given.strict = false) :
    state.step "--strict" =
      .ok { settled with given := { settled.given with strict := true } } := by
  have found : state.options "--strict" = (state.take .strict none).map some := by
    show state.longOption "strict".toList = _
    have name : "strict".toList.takeWhile (· != '=') = "strict".toList := rfl
    rw [longOption, name, state.level.longOption?_strict]
    rfl
  have taken : state.take .strict none =
      .ok { settled with given := { settled.given with strict := true } } := by
    rw [take, before]
    show (do return { settled with given := ← settled.given.take settled.level .strict none }) = _
    rw [take_strict fresh]
    rfl
  rw [step, opened, found, taken]
  rfl

end State

/-! ## Several words -/

/-- What a level makes of an expression, if it takes one. -/
def Level.commandOn? (level : Level) (word : String) : Option Command :=
  match level with
  | eval => some (.eval (some word))
  | render => some (.render word .inorder)
  | tree => some (.tree word)
  | _ => none

/-- Levels that take an expression take nothing but options before it, and no other level is below
them. -/
theorem Level.takes_expression {level : Level} {word : String} {command : Command}
    (runs : level.commandOn? word = some command) :
    level.positionals[0]? = some .expression ∧ ∀ name, level.isSubcommand name = false := by
  cases level with
  | eval => exact ⟨rfl, fun _ => rfl⟩
  | render => exact ⟨rfl, fun _ => rfl⟩
  | tree => exact ⟨rfl, fun _ => rfl⟩
  | _ => cases runs

theorem parseLevel_cons {state next : State} {word : String}
    (leaf : ∀ name, state.level.isSubcommand name = false) (stepped : state.step word = .ok next)
    (rest : List String) : parseLevel state (word :: rest) = parseLevel next rest := by
  rw [parseLevel, State.subcommand?, leaf, Bool.and_false, stepped]
  rfl

/-- At the end of its words a level makes its command of the expression that it was given. -/
theorem parseLevel_nil {state settled : State} {word : String} {command : Command}
    (last : state.settle = .ok settled) (runs : settled.level.commandOn? word = some command)
    (expression : settled.given.expression = some word) (order : settled.given.order = none) :
    parseLevel state [] = .ok
      { debug := settled.given.debug
        config := settled.given.config
        strict := settled.given.strict
        command := some command } := by
  have made : settled.command = .ok (some command) := by
    rw [State.command]
    simp only [expression, order]
    cases level : settled.level with
    | eval => rw [level] at runs; cases runs; rfl
    | render => rw [level] at runs; cases runs; rfl
    | tree => rw [level] at runs; cases runs; rfl
    | _ => rw [level] at runs; cases runs
  rw [parseLevel, State.finish, last]
  show Except.bind settled.command _ = _
  rw [made]
  rfl

/-- The words after the name of a command are read by its level. A flag that the program itself was
given stays. -/
theorem parseLevel_program {name : String} {level : Level} {rest : List String}
    {inner : Invocation} (named : Level.program.below.lookup name = some level)
    (read : parseLevel { level } rest = .ok inner) (strict : Bool) :
    parseLevel { level := .program, given := { strict } } (name :: rest) =
      .ok { inner with strict := inner.strict || strict } := by
  have descends : Level.program.isSubcommand name = true := by
    rw [Level.isSubcommand, named, Option.isSome_some, Bool.or_true]
    rfl
  have leads : ({ level := .program, given := { strict } } : State).subcommand? name = true :=
    descends
  rw [parseLevel, if_pos leads]
  simp only [named, read]
  -- a count that is zero is replaced by the count of the program, which is zero too
  have count : (if inner.debug = 0 then 0 else inner.debug) = inner.debug := by
    split
    · next none => exact none.symm
    · rfl
  have finished : ({ level := .program, given := { strict } } : State).finish (some inner) = .ok
      { inner with
        debug := if inner.debug = 0 then 0 else inner.debug
        config := inner.config.or none
        strict := inner.strict || strict } := rfl
  rw [count, Option.or_none] at finished
  exact finished

/-- Each word of digits and operators but the two hyphens can be the expression of each command that
takes one, without anything before it, and nothing else is given by it. The strict option changes
the same thing before the command, between the command and the expression, and after both. -/
theorem expression_word {word : String}
    (symbols : ∀ c ∈ word.toList, c.isDigit = true ∨ c ∈ ['+', '-', '*', '/'])
    (other : word ≠ "--") :
    ∀ name command, (name, command) ∈
        [("eval", Command.eval (some word)), ("render", .render word .inorder),
          ("tree", .tree word)] →
      parse [name, word] = .ok { command := some command } ∧
      parse ["--strict", name, word] = .ok { strict := true, command := some command } ∧
      parse [name, "--strict", word] = .ok { strict := true, command := some command } ∧
      parse [name, word, "--strict"] = .ok { strict := true, command := some command } := by
  intro name command member
  obtain ⟨level, named, runs⟩ : ∃ level, Level.program.below.lookup name = some level ∧
      level.commandOn? word = some command := by
    simp only [List.mem_cons, Prod.mk.injEq, List.not_mem_nil, or_false] at member
    rcases member with ⟨rfl, rfl⟩ | ⟨rfl, rfl⟩ | ⟨rfl, rfl⟩
    · exact ⟨.eval, rfl, rfl⟩
    · exact ⟨.render, rfl, rfl⟩
    · exact ⟨.tree, rfl, rfl⟩
  obtain ⟨due, leaf⟩ := Level.takes_expression runs
  have expression (strict : Bool) :
      parseLevel { level, given := { strict } } [word] =
        .ok { strict, command := some command } := by
    have settled :
        State.settle
            { level, given := { strict }
              pending := some ⟨.expression, some word⟩, position := 1 } =
          .ok { level, given := { strict, expression := some word }, position := 1 } := rfl
    rw [parseLevel_cons leaf (State.step_expression due { strict } symbols other)]
    exact parseLevel_nil settled runs rfl rfl
  have strictFirst : parseLevel { level } ["--strict", word] =
      .ok { strict := true, command := some command } := by
    rw [parseLevel_cons leaf (State.step_strict rfl rfl rfl)]
    exact expression true
  have strictLast : parseLevel { level } [word, "--strict"] =
      .ok { strict := true, command := some command } := by
    have settled :
        State.settle
            { level, given := { strict := true, expression := some word }, position := 1 } =
          .ok { level, given := { strict := true, expression := some word }, position := 1 } := rfl
    rw [parseLevel_cons leaf (State.step_expression due {} symbols other),
      parseLevel_cons leaf (State.step_strict rfl rfl rfl)]
    exact parseLevel_nil settled runs rfl rfl
  refine ⟨?_, ?_, ?_, ?_⟩
  · exact parseLevel_program named (expression false) false
  · have settled : ({ level := .program } : State).settle = .ok { level := .program } := rfl
    have stepped : ({ level := .program } : State).step "--strict" =
        .ok { level := .program, given := { strict := true } } :=
      State.step_strict rfl settled rfl
    have first : ({ level := .program } : State).subcommand? "--strict" = false := by decide
    rw [parse, parseLevel, if_neg (by rw [first]; decide), stepped]
    exact parseLevel_program named (expression false) true
  · exact parseLevel_program named strictFirst false
  · exact parseLevel_program named strictLast false

/-- A word that looks like the start of an option is the expression. -/
theorem expression_word_hyphens :
    (∀ c ∈ "--93".toList, c.isDigit = true ∨ c ∈ ['+', '-', '*', '/']) ∧ "--93" ≠ "--" ∧
      let command := Command.render "--93" .inorder
      parse ["render", "--93"] = .ok { command := some command } ∧
      parse ["--strict", "render", "--93"] = .ok { strict := true, command := some command } ∧
      parse ["render", "--strict", "--93"] = .ok { strict := true, command := some command } ∧
      parse ["render", "--93", "--strict"] = .ok { strict := true, command := some command } := by
  have all : "--93".toList.all (fun c => decide (IsSymbolChar c)) = true := rfl
  have symbols : ∀ c ∈ "--93".toList, IsSymbolChar c := by simpa using all
  have other : "--93" ≠ "--" := by decide
  exact ⟨symbols, other, expression_word symbols other "render" _ (by simp)⟩

end PolishCalc.CommandLine
