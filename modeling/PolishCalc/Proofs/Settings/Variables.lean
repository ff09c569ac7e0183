import PolishCalc.Proofs.Decimal.Integer
import PolishCalc.Proofs.Result
import PolishCalc.Proofs.Text.LowerCase
import PolishCalc.Settings.Environment

/-!
# Settings by variables

What an environment makes of settings, where each of them is addressed by its own variable only
(`Environment.Direct`): the variable that is called by its key.

* **values** — which texts say truth values and numbers is defined apart from the readers
  (`Environment.SaysTruth`, `Environment.SaysNumber`). A boolean and a number of places are read
  exactly from these, and each other text has its error (`Environment.boolean_eq_error_iff`,
  `Environment.places_eq_error_iff`);
* **variables** — in a direct environment a setting is found in its own variable
  (`Environment.find?_eq_setting?`), whatever the other variables are called;
* **fields** — so what the environment specifies is decided by three texts
  (`Environment.overlay_eq_ok_iff_of_direct`), and so is the error, for which the strict variable
  comes first (`Environment.overlay_eq_error_iff_of_direct`);
* **settings** — an environment that is put on top of settings once more changes nothing
  (`Settings.withEnvironment_again`). The theorem at the end puts the parts together
  (`Settings.own_variables_decide`).
-/

namespace PolishCalc

open Decimal

namespace Environment

/-! ## Values -/

/-- The words for a truth value. -/
def truthWords : Bool → List String
  | true => ["true", "on", "yes"]
  | false => ["false", "off", "no"]

/-- All forms of a truth value: its digit and its words. -/
def truthForms (b : Bool) : List String :=
  (if b then "1" else "0") :: truthWords b

/-- A text says a truth value, in words or as a digit. -/
def SaysTruth (text : String) (b : Bool) : Prop :=
  ∃ form ∈ truthForms b, Text.Spells text form

/-- A text says a number of 64 bits, in digits or by a word for a truth value. -/
inductive SaysNumber (text : String) : Int → Prop
  | yes : (∃ word ∈ truthWords true, Text.Spells text word) → SaysNumber text 1
  | no : (∃ word ∈ truthWords false, Text.Spells text word) → SaysNumber text 0
  | digits {n : Int} : SaysInteger text.toList n → -2 ^ 63 ≤ n → n < 2 ^ 63 → SaysNumber text n

theorem lower_mem_truthForms_iff (text : String) (b : Bool) :
    Text.lower text ∈ truthForms b ↔ SaysTruth text b := by
  cases b with
  | true => exact Text.lower_mem_iff rfl text
  | false => exact Text.lower_mem_iff rfl text

theorem lower_mem_truthWords_iff (text : String) (b : Bool) :
    Text.lower text ∈ truthWords b ↔ ∃ word ∈ truthWords b, Text.Spells text word := by
  cases b with
  | true => exact Text.lower_mem_iff rfl text
  | false => exact Text.lower_mem_iff rfl text

/-- How a boolean is read, by the forms of both truth values. -/
theorem boolean_text (key text : String) :
    boolean key (.text text) =
      if Text.lower text ∈ truthForms true then .ok true
      else if Text.lower text ∈ truthForms false then .ok false
      else .error (.wrongType key "a boolean" (.text (Text.lower text))) := rfl

/-- How an integer is read, by the words of both truth values. -/
theorem integer_text (key text : String) :
    integer key (.text text) =
      if Text.lower text ∈ truthWords true then .ok 1
      else if Text.lower text ∈ truthWords false then .ok 0
      else
        match readInteger? text.toList with
        | some n => .ok n
        | none => .error (.wrongType key "an integer" (.text text)) := rfl

theorem boolean_of_saysTruth {text : String} {b : Bool} (truth : SaysTruth text b) (key : String) :
    boolean key (.text text) = .ok b := by
  have member := (lower_mem_truthForms_iff text b).mpr truth
  cases b with
  | true => rw [boolean_text, if_pos member]
  | false =>
      have apart : ∀ form ∈ truthForms false, form ∉ truthForms true := by decide
      rw [boolean_text, if_neg (apart _ member), if_pos member]

/-- A text says one truth value at most. -/
theorem SaysTruth.iff_eq {text : String} {b b' : Bool} (truth : SaysTruth text b) :
    SaysTruth text b' ↔ b' = b := by
  constructor
  · intro truth'
    have read := (boolean_of_saysTruth truth' "strict").symm
    exact Except.ok.inj (read.trans (boolean_of_saysTruth truth "strict"))
  · rintro rfl
    exact truth

theorem boolean_refused {text : String} (silent : ¬ ∃ b, SaysTruth text b) (key : String) :
    boolean key (.text text) = .error (.wrongType key "a boolean" (.text (Text.lower text))) := by
  have outside : ∀ b, Text.lower text ∉ truthForms b := by
    intro b member
    exact silent ⟨b, (lower_mem_truthForms_iff text b).mp member⟩
  rw [boolean_text, if_neg (outside true), if_neg (outside false)]

/-- A word without digits is no integer. -/
theorem not_spells_of_saysInteger {text word : String} {n : Int}
    (number : SaysInteger text.toList n)
    (letters : word.toList.all (fun c => !c.isDigit) = true) : ¬ Text.Spells text word := by
  intro spelled
  obtain ⟨c, member, digit⟩ := exists_digit_of_saysInteger number
  have letter := List.all_eq_true.mp letters c (spelled.digit_mem member digit)
  rw [digit] at letter
  cases letter

theorem lower_not_mem_truthWords {text : String} {n : Int}
    (number : SaysInteger text.toList n) (b : Bool) : Text.lower text ∉ truthWords b := by
  intro member
  have letters : ∀ b, ∀ word ∈ truthWords b, word.toList.all (fun c => !c.isDigit) = true := by
    decide +kernel
  obtain ⟨word, listed, spelled⟩ := (lower_mem_truthWords_iff text b).mp member
  exact not_spells_of_saysInteger number (letters b word listed) spelled

theorem integer_of_saysNumber {text : String} {n : Int} (number : SaysNumber text n)
    (key : String) : integer key (.text text) = .ok n := by
  cases number with
  | yes word => rw [integer_text, if_pos ((lower_mem_truthWords_iff text true).mpr word)]
  | no word =>
      have member := (lower_mem_truthWords_iff text false).mpr word
      have apart : ∀ word ∈ truthWords false, word ∉ truthWords true := by decide
      rw [integer_text, if_neg (apart _ member), if_pos member]
  | digits number lower upper =>
      have read := (readInteger?_eq_some_iff text.toList n).mpr ⟨number, lower, upper⟩
      rw [integer_text, if_neg (lower_not_mem_truthWords number true),
        if_neg (lower_not_mem_truthWords number false), read]

/-- A text says one number at most. -/
theorem SaysNumber.iff_eq {text : String} {n n' : Int} (number : SaysNumber text n) :
    SaysNumber text n' ↔ n' = n := by
  constructor
  · intro number'
    have read := (integer_of_saysNumber number' "precision").symm
    exact Except.ok.inj (read.trans (integer_of_saysNumber number "precision"))
  · rintro rfl
    exact number

theorem integer_refused {text : String} (silent : ¬ ∃ n, SaysNumber text n) (key : String) :
    integer key (.text text) = .error (.wrongType key "an integer" (.text text)) := by
  have notOne : Text.lower text ∉ truthWords true := fun member =>
    silent ⟨1, .yes ((lower_mem_truthWords_iff text true).mp member)⟩
  have notZero : Text.lower text ∉ truthWords false := fun member =>
    silent ⟨0, .no ((lower_mem_truthWords_iff text false).mp member)⟩
  have unread : readInteger? text.toList = none := by
    cases read : readInteger? text.toList with
    | none => rfl
    | some n =>
        obtain ⟨number, lower, upper⟩ := (readInteger?_eq_some_iff _ n).mp read
        exact absurd ⟨n, .digits number lower upper⟩ silent
  rw [integer_text, if_neg notOne, if_neg notZero, unread]

/-- A number of places is a number that is not negative. -/
theorem places_of_saysNumber {text : String} {n : Nat} (number : SaysNumber text n) (key : String) :
    places key (.text text) = .ok n := by
  have positive : ¬ (n : Int) < 0 := Int.not_lt.mpr (Int.natCast_nonneg n)
  rw [places, integer_of_saysNumber number]
  show (if (n : Int) < 0 then Except.error (ConfigError.negativePrecision n)
    else .ok (n : Int).toNat) = _
  rw [if_neg positive, Int.toNat_natCast]

theorem places_negative {text : String} {n : Int} (number : SaysNumber text n) (negative : n < 0)
    (key : String) : places key (.text text) = .error (.negativePrecision n) := by
  rw [places, integer_of_saysNumber number]
  exact if_pos negative

theorem places_refused {text : String} (silent : ¬ ∃ n, SaysNumber text n) (key : String) :
    places key (.text text) = .error (.wrongType key "an integer" (.text text)) := by
  rw [places, integer_refused silent]
  rfl

theorem boolean_eq_ok_iff {key text : String} {b : Bool} :
    boolean key (.text text) = .ok b ↔ SaysTruth text b := by
  constructor
  · intro read
    by_cases truth : ∃ b, SaysTruth text b
    · obtain ⟨b', truth⟩ := truth
      rw [boolean_of_saysTruth truth] at read
      exact Except.ok.inj read ▸ truth
    · rw [boolean_refused truth] at read
      cases read
  · intro truth
    exact boolean_of_saysTruth truth key

theorem boolean_eq_error_iff {key text : String} {error : ConfigError} :
    boolean key (.text text) = .error error ↔
      (¬ ∃ b, SaysTruth text b) ∧
        error = .wrongType key "a boolean" (.text (Text.lower text)) := by
  by_cases truth : ∃ b, SaysTruth text b
  · obtain ⟨b, spoken⟩ := truth
    rw [boolean_of_saysTruth spoken]
    simp only [reduceCtorEq, false_iff]
    exact fun refused => refused.1 ⟨b, spoken⟩
  · rw [boolean_refused truth, Except.error.injEq]
    exact ⟨fun same => ⟨truth, same.symm⟩, fun refused => refused.2.symm⟩

theorem text_eq_ok_iff {key value result : String} :
    text key (.text value) = .ok result ↔ value = result :=
  ⟨Except.ok.inj, congrArg _⟩

/-- A text says a number of places, says a negative number, or says none. -/
theorem places_cases (text : String) :
    (∃ n : Nat, SaysNumber text n ∧ ∀ key, places key (.text text) = .ok n) ∨
      (∃ n : Int, n < 0 ∧ SaysNumber text n ∧
        ∀ key, places key (.text text) = .error (.negativePrecision n)) ∨
      (¬ ∃ n, SaysNumber text n) ∧
        ∀ key, places key (.text text) = .error (.wrongType key "an integer" (.text text)) := by
  by_cases number : ∃ n, SaysNumber text n
  · obtain ⟨n, number⟩ := number
    by_cases negative : n < 0
    · exact .inr (.inl ⟨n, negative, number, places_negative number negative⟩)
    · obtain ⟨n, rfl⟩ := Int.eq_ofNat_of_zero_le (Int.not_lt.mp negative)
      exact .inl ⟨n, number, places_of_saysNumber number⟩
  · exact .inr (.inr ⟨number, places_refused number⟩)

theorem places_eq_ok_iff {key text : String} {n : Nat} :
    places key (.text text) = .ok n ↔ SaysNumber text n := by
  constructor
  · intro read
    rcases places_cases text with ⟨m, number, result⟩ | ⟨m, _, _, result⟩ | ⟨_, result⟩
    · rw [result key] at read
      exact Except.ok.inj read ▸ number
    · rw [result key] at read
      cases read
    · rw [result key] at read
      cases read
  · intro number
    exact places_of_saysNumber number key

theorem places_eq_error_iff {key text : String} {error : ConfigError} :
    places key (.text text) = .error error ↔
      (∃ n, SaysInteger text.toList n ∧ -2 ^ 63 ≤ n ∧ n < 0 ∧ error = .negativePrecision n) ∨
        (¬ ∃ n, SaysNumber text n) ∧ error = .wrongType key "an integer" (.text text) := by
  constructor
  · intro refused
    rcases places_cases text with ⟨m, _, result⟩ | ⟨m, negative, number, result⟩ | ⟨silent, result⟩
    · rw [result key] at refused
      cases refused
    · rw [result key] at refused
      -- the words for truth values say no negative number
      cases number with
      | yes _ => exact absurd negative (by decide)
      | no _ => exact absurd negative (by decide)
      | digits number lower _ =>
          exact .inl ⟨m, number, lower, negative, (Except.error.inj refused).symm⟩
    · rw [result key] at refused
      exact .inr ⟨silent, (Except.error.inj refused).symm⟩
  · rintro (⟨n, number, lower, negative, rfl⟩ | ⟨silent, rfl⟩)
    · exact places_negative (.digits number lower (by omega)) negative key
    · exact places_refused silent key

/-! ## Variables -/

/-- The keys of the settings. -/
def settingKeys : List String := ["strict", "sample_expression", "precision"]

/-- The lower-cased name of the variable that is a setting by itself. -/
def variableName (key : String) : String := "exptree_" ++ key

/-- The value of the variable that is a setting by itself, in any letter case of its name. -/
def setting? (environment : Environment) (key : String) : Option String :=
  (List.find? (fun entry => Text.lower entry.1 == variableName key) environment).map Prod.snd

/-- No two names are the same in lower case, and no variable but the settings themselves addresses a
path that starts with the key of a setting. -/
structure Direct (environment : Environment) : Prop where
  distinct : (environment.map fun entry => Text.lower entry.1).Nodup
  direct : ∀ entry ∈ environment, ∀ path ∈ keyPath? entry.1, path.head ∈ settingKeys →
    Text.lower entry.1 ∈ settingKeys.map variableName

instance (environment : Environment) : Decidable environment.Direct :=
  decidable_of_iff (_ ∧ _) ⟨fun parts => ⟨parts.1, parts.2⟩, fun direct => ⟨direct.1, direct.2⟩⟩

/-- The variable that is a setting by itself addresses the setting and no part of it. -/
theorem keyPath?_of_lower {name key : String} (listed : key ∈ settingKeys)
    (lowered : Text.lower name = variableName key) : keyPath? name = some ⟨key, []⟩ := by
  rw [keyPath?, lowered]
  simp only [settingKeys, List.mem_cons, List.not_mem_nil, or_false] at listed
  rcases listed with rfl | rfl | rfl
  · rfl
  · rfl
  · rfl

/-- The last of several values is the only one, if there is at most one. -/
theorem getLast?_filterMap_of_nodup {α β κ : Type} [BEq κ] [LawfulBEq κ] {key : α → κ} {xs : List α}
    (distinct : (xs.map key).Nodup) (k : κ) (value : α → β) :
    (xs.filterMap fun x => if key x == k then some (value x) else none).getLast? =
      (xs.find? fun x => key x == k).map value := by
  induction xs with
  | nil => rfl
  | cons x xs ih =>
      obtain ⟨fresh, distinct⟩ := List.nodup_cons.mp distinct
      by_cases same : key x = k
      · have others : xs.filterMap (fun x => if key x == k then some (value x) else none) = [] := by
          rw [List.filterMap_eq_nil_iff]
          intro y member
          rw [if_neg]
          intro equal
          apply fresh
          rw [same, ← beq_iff_eq.mp equal]
          exact List.mem_map_of_mem member
        simp [same, others]
      · simp [same, ih distinct]

/-- What each variable makes of a setting: the setting itself says its value, and no other variable
says anything. -/
theorem found_eq {environment : Environment} (direct : environment.Direct) {key : String}
    (listed : key ∈ settingKeys) {entry : String × String} (member : entry ∈ environment) :
    (do
      let path ← keyPath? entry.1
      if path.head = key then some (found path entry.2) else none) =
      if Text.lower entry.1 == variableName key then some (.text entry.2) else none := by
  by_cases own : Text.lower entry.1 = variableName key
  · rw [keyPath?_of_lower listed own]
    simp [own, found]
  · rw [if_neg (by simpa using own)]
    cases address : keyPath? entry.1 with
    | none => rfl
    | some path =>
        have other : path.head ≠ key := by
          rintro rfl
          have named := direct.direct entry member path address listed
          obtain ⟨key, listed', lowered⟩ := List.mem_map.mp named
          rw [keyPath?_of_lower listed' lowered.symm] at address
          cases address
          exact own lowered.symm
        exact if_neg other

/-- Each setting is found in its own variable. -/
theorem find?_eq_setting? {environment : Environment} (direct : environment.Direct) {key : String}
    (listed : key ∈ settingKeys) :
    environment.find? key = (environment.setting? key).map .text := by
  rw [find?, setting?, Option.map_map]
  rw [List.filterMap_congr fun entry member => found_eq direct listed member]
  exact getLast?_filterMap_of_nodup direct.distinct _ _

/-! ## Fields -/

/-- A field has the value that its variable says. -/
theorem field_eq {environment : Environment} (direct : environment.Direct) {key : String}
    (listed : key ∈ settingKeys) {α : Type} (read : String → FoundValue → Except ConfigError α) :
    environment.field key read =
      match environment.setting? key with
      | none => .ok none
      | some text => (read key (.text text)).map some := by
  rw [field, find?_eq_setting? direct listed]
  cases environment.setting? key with
  | none => rfl
  | some text => rfl

section Field

variable {environment : Environment} {key : String} {α : Type}
  {read : String → FoundValue → Except ConfigError α} {Means : String → α → Prop}

theorem field_eq_ok_iff (direct : environment.Direct) (listed : key ∈ settingKeys)
    (reads : ∀ text a, read key (.text text) = .ok a ↔ Means text a) (value : Option α) :
    environment.field key read = .ok value ↔ Option.Rel Means (environment.setting? key) value := by
  rw [field_eq direct listed]
  cases environment.setting? key with
  | none =>
      constructor
      · intro absent
        obtain rfl := Except.ok.inj absent
        exact .none
      · rintro ⟨⟩
        rfl
  | some text =>
      constructor
      · intro present
        obtain ⟨a, accepted, rfl⟩ := map_eq_ok present
        exact .some ((reads text a).mp accepted)
      · rintro (means | _)
        simp only [(reads text _).mpr means, Except.map]

theorem field_eq_error_iff (direct : environment.Direct) (listed : key ∈ settingKeys)
    {error : ConfigError} :
    environment.field key read = .error error ↔
      ∃ text ∈ environment.setting? key, read key (.text text) = .error error := by
  rw [field_eq direct listed]
  cases environment.setting? key with
  | none => simp
  | some text => cases result : read key (.text text) <;> simp [Except.map, result]

end Field

theorem overlay_eq_ok_iff {environment : Environment} {overlay : Overlay} :
    environment.overlay = .ok overlay ↔
      environment.field "strict" boolean = .ok overlay.strict ∧
        environment.field "sample_expression" text = .ok overlay.sample ∧
        environment.field "precision" places = .ok overlay.precision := by
  constructor
  · intro specified
    obtain ⟨strict, first, specified⟩ := bind_eq_ok specified
    obtain ⟨sample, second, specified⟩ := bind_eq_ok specified
    obtain ⟨precision, third, specified⟩ := bind_eq_ok specified
    obtain rfl := Except.ok.inj specified
    exact ⟨first, second, third⟩
  · rintro ⟨first, second, third⟩
    rw [Environment.overlay, first, second, third]
    rfl

/-- The first field that is refused decides the error. -/
theorem overlay_eq_error_iff {environment : Environment} {error : ConfigError} :
    environment.overlay = .error error ↔
      environment.field "strict" boolean = .error error ∨
        (∃ strict, environment.field "strict" boolean = .ok strict) ∧
          (environment.field "sample_expression" text = .error error ∨
            (∃ sample, environment.field "sample_expression" text = .ok sample) ∧
              environment.field "precision" places = .error error) := by
  rw [Environment.overlay]
  cases environment.field "strict" boolean with
  | error cause => simp [bind, Except.bind]
  | ok strict =>
      cases environment.field "sample_expression" text with
      | error cause => simp [bind, Except.bind]
      | ok sample =>
          cases environment.field "precision" places with
          | error cause => simp [bind, Except.bind]
          | ok precision => simp [bind, Except.bind, pure, Except.pure]

/-- Something can be meant by a value that may be missing exactly if something can be meant by it
where it is there. -/
theorem exists_rel_iff {α β : Type} {Means : α → β → Prop} {a? : Option α} :
    (∃ b?, Option.Rel Means a? b?) ↔ ∀ a ∈ a?, ∃ b, Means a b := by
  cases a? with
  | none =>
      constructor
      · intro _ a member
        cases member
      · intro _
        exact ⟨none, .none⟩
  | some a =>
      constructor
      · rintro ⟨_, means | _⟩ a' member
        obtain rfl := Option.mem_some.mp member
        exact ⟨_, means⟩
      · intro means
        obtain ⟨b, means⟩ := means a rfl
        exact ⟨some b, .some means⟩

/-- What is meant by a value replaces a default, which stays where the value is missing. -/
theorem getD_of_rel {α β : Type} {Means : α → β → Prop} {a? : Option α} {b? : Option β}
    (rel : Option.Rel Means a? b?) (base : β) :
    (a? = none → b?.getD base = base) ∧ ∀ a ∈ a?, Means a (b?.getD base) := by
  cases rel with
  | none => simp
  | some means => simpa using means

/-- The same for a default that may be missing itself. -/
theorem or_of_rel {α β : Type} {Means : α → β → Prop} {a? : Option α} {b? : Option β}
    (rel : Option.Rel Means a? b?) (base : Option β) :
    (a? = none → b?.or base = base) ∧ ∀ a ∈ a?, ∃ b, Means a b ∧ b?.or base = some b := by
  cases rel with
  | none => simp
  | some means => simpa using means

section Direct

variable {environment : Environment} (direct : environment.Direct)
include direct

theorem field_text {key : String} (listed : key ∈ settingKeys) :
    environment.field key text = .ok (environment.setting? key) := by
  rw [field_eq direct listed]
  cases environment.setting? key with
  | none => rfl
  | some value => rfl

theorem overlay_eq_ok_iff_of_direct {overlay : Overlay} :
    environment.overlay = .ok overlay ↔
      Option.Rel SaysTruth (environment.setting? "strict") overlay.strict ∧
        Option.Rel Eq (environment.setting? "sample_expression") overlay.sample ∧
        Option.Rel (fun text n => SaysNumber text (n : Nat)) (environment.setting? "precision")
          overlay.precision := by
  rw [overlay_eq_ok_iff,
    field_eq_ok_iff direct (by decide) (fun _ _ => boolean_eq_ok_iff),
    field_eq_ok_iff direct (by decide) (fun _ _ => text_eq_ok_iff),
    field_eq_ok_iff direct (by decide) (fun _ _ => places_eq_ok_iff)]

/-- What is there must say a truth value and a number that is not negative; any text will do for the
sample expression. -/
theorem exists_overlay_iff :
    (∃ overlay, environment.overlay = .ok overlay) ↔
      (∀ text ∈ environment.setting? "strict", ∃ b, SaysTruth text b) ∧
        ∀ text ∈ environment.setting? "precision", ∃ n : Nat, SaysNumber text n := by
  constructor
  · rintro ⟨overlay, specified⟩
    obtain ⟨truth, _, number⟩ := (overlay_eq_ok_iff_of_direct direct).mp specified
    exact ⟨exists_rel_iff.mp ⟨_, truth⟩, exists_rel_iff.mp ⟨_, number⟩⟩
  · rintro ⟨strictMeans, precisionMeans⟩
    obtain ⟨strict, truth⟩ := exists_rel_iff.mpr strictMeans
    obtain ⟨sample, same⟩ := exists_rel_iff.mpr fun (text : String) _ => ⟨text, rfl⟩
    obtain ⟨precision, number⟩ := exists_rel_iff.mpr precisionMeans
    exact ⟨⟨strict, sample, precision⟩,
      (overlay_eq_ok_iff_of_direct direct).mpr ⟨truth, same, number⟩⟩

theorem overlay_eq_error_iff_of_direct {error : ConfigError} :
    environment.overlay = .error error ↔
      (∃ text ∈ environment.setting? "strict", boolean "strict" (.text text) = .error error) ∨
        (∃ strict, Option.Rel SaysTruth (environment.setting? "strict") strict) ∧
          ∃ text ∈ environment.setting? "precision",
            places "precision" (.text text) = .error error := by
  have listed : "strict" ∈ settingKeys := by decide
  rw [overlay_eq_error_iff, field_eq_error_iff direct listed, field_text direct (by decide),
    field_eq_error_iff direct (by decide)]
  simp only [field_eq_ok_iff direct listed fun _ _ => boolean_eq_ok_iff, reduceCtorEq,
    Except.ok.injEq, exists_eq', false_or, true_and]

/-- Two environments that have the same settings specify the same, or are refused alike. -/
theorem overlay_congr {other : Environment} (otherDirect : other.Direct)
    (same : ∀ key ∈ settingKeys, other.setting? key = environment.setting? key) :
    other.overlay = environment.overlay := by
  have fields : ∀ key ∈ settingKeys, ∀ {α : Type}
      (read : String → FoundValue → Except ConfigError α),
      other.field key read = environment.field key read := by
    intro key listed α read
    rw [field_eq direct listed, field_eq otherDirect listed, same key listed]
  rw [Environment.overlay, Environment.overlay, fields "strict" (by decide),
    fields "sample_expression" (by decide), fields "precision" (by decide)]

end Direct

end Environment

namespace Settings

theorem withEnvironment_eq_ok_iff {base result : Settings} {environment : Environment} :
    base.withEnvironment environment = .ok result ↔
      ∃ overlay, environment.overlay = .ok overlay ∧ result = base.merge overlay := by
  rw [withEnvironment]
  cases environment.overlay with
  | error cause => simp [bind, Except.bind]
  | ok overlay => simp [bind, Except.bind, pure, Except.pure, eq_comm]

theorem exists_withEnvironment_iff {base : Settings} {environment : Environment} :
    (∃ result, base.withEnvironment environment = .ok result) ↔
      ∃ overlay, environment.overlay = .ok overlay := by
  constructor
  · rintro ⟨result, success⟩
    obtain ⟨overlay, specified, _⟩ := withEnvironment_eq_ok_iff.mp success
    exact ⟨overlay, specified⟩
  · rintro ⟨overlay, specified⟩
    exact ⟨_, withEnvironment_eq_ok_iff.mpr ⟨overlay, specified, rfl⟩⟩

theorem withEnvironment_eq_error_iff {base : Settings} {environment : Environment}
    {error : ConfigError} :
    base.withEnvironment environment = .error error ↔ environment.overlay = .error error := by
  rw [withEnvironment]
  cases environment.overlay with
  | error cause => simp [bind, Except.bind]
  | ok overlay => simp [bind, Except.bind, pure, Except.pure]

theorem merge_merge (base : Settings) (overlay : Overlay) :
    (base.merge overlay).merge overlay = base.merge overlay := by
  obtain ⟨strict, sample, precision⟩ := overlay
  cases strict <;> cases sample <;> cases precision <;> rfl

/-- An environment that is put on top once more changes nothing. -/
theorem withEnvironment_again {base result : Settings} {environment : Environment}
    (success : base.withEnvironment environment = .ok result) :
    result.withEnvironment environment = .ok result := by
  obtain ⟨overlay, specified, rfl⟩ := withEnvironment_eq_ok_iff.mp success
  exact withEnvironment_eq_ok_iff.mpr ⟨overlay, specified, (merge_merge base overlay).symm⟩

open Environment in
/-- Where the settings are addressed by their own variables only, those decide what the environment
does to any settings. It is accepted exactly if the strict variable, if there is one, says a truth
value and the precision variable, if there is one, says a number that is not negative; then each
field with a variable has the value that it says, the other fields are as before, and the same
environment changes nothing any more. Otherwise the error is that of the strict variable, or else
that of the precision variable, which tells of negative numbers apart. -/
theorem own_variables_decide {environment : Environment} (direct : environment.Direct) :
    let strict := environment.setting? "strict"
    let sample := environment.setting? "sample_expression"
    let precision := environment.setting? "precision"
    let strictFits := ∀ text ∈ strict, ∃ b, SaysTruth text b
    let precisionFits := ∀ text ∈ precision, ∃ n : Nat, SaysNumber text n
    (∀ other : Environment, other.Direct →
        (∀ key ∈ settingKeys, other.setting? key = environment.setting? key) →
        ∀ base : Settings, base.withEnvironment other = base.withEnvironment environment) ∧
      (∀ base : Settings, (∃ result, base.withEnvironment environment = .ok result) ↔
        strictFits ∧ precisionFits) ∧
      (∀ base result : Settings, base.withEnvironment environment = .ok result →
        (strict = none → result.strict = base.strict) ∧
        (∀ text ∈ strict, ∀ b, SaysTruth text b ↔ b = result.strict) ∧
        (sample = none → result.sample = base.sample) ∧
        (∀ text ∈ sample, result.sample = text) ∧
        (precision = none → result.precision = base.precision) ∧
        (∀ text ∈ precision, ∃ n : Nat,
          (∀ m, SaysNumber text m ↔ m = n) ∧ result.precision = some n) ∧
        result.withEnvironment environment = .ok result) ∧
      ∀ (base : Settings) (error : ConfigError), base.withEnvironment environment = .error error ↔
        (∃ text ∈ strict, (¬ ∃ b, SaysTruth text b) ∧
          error = .wrongType "strict" "a boolean" (.text (Text.lower text))) ∨
        strictFits ∧ ∃ text ∈ precision,
          (∃ n, SaysInteger text.toList n ∧ -2 ^ 63 ≤ n ∧ n < 0 ∧ error = .negativePrecision n ∧
            error.message = s!"precision must not be negative: {n}") ∨
          (¬ ∃ n, SaysNumber text n) ∧
            error = .wrongType "precision" "an integer" (.text text) := by
  intro strict sample precision strictFits precisionFits
  refine ⟨?_, ?_, ?_, ?_⟩
  · intro other otherDirect same base
    rw [withEnvironment, withEnvironment, overlay_congr direct otherDirect same]
  · intro base
    rw [exists_withEnvironment_iff, exists_overlay_iff direct]
  · intro base result success
    have again := withEnvironment_again success
    obtain ⟨overlay, specified, rfl⟩ := withEnvironment_eq_ok_iff.mp success
    obtain ⟨truth, same, number⟩ := (overlay_eq_ok_iff_of_direct direct).mp specified
    obtain ⟨keepsStrict, saysStrict⟩ := getD_of_rel truth base.strict
    obtain ⟨keepsSample, isSample⟩ := getD_of_rel same base.sample
    obtain ⟨keepsPrecision, saysPrecision⟩ := or_of_rel number base.precision
    refine ⟨keepsStrict, ?_, keepsSample, ?_, keepsPrecision, ?_, again⟩
    · intro text present b
      exact (saysStrict text present).iff_eq
    · intro text present
      exact (isSample text present).symm
    · intro text present
      obtain ⟨n, said, isPrecision⟩ := saysPrecision text present
      exact ⟨n, fun m => said.iff_eq, isPrecision⟩
  · intro base error
    have told : ∀ n, error = .negativePrecision n ∧
        error.message = s!"precision must not be negative: {n}" ↔ error = .negativePrecision n := by
      intro n
      constructor
      · exact And.left
      · rintro rfl
        exact ⟨rfl, rfl⟩
    rw [withEnvironment_eq_error_iff, overlay_eq_error_iff_of_direct direct, exists_rel_iff]
    simp only [boolean_eq_error_iff, places_eq_error_iff, told]
    rfl

open Environment in
/-- A word and a number with a sign are accepted, next to a variable that addresses a part of
something else; a negative number is refused after a word that is accepted. -/
theorem own_variables_decide_words :
    let accepted : Environment :=
      [("ExpTree_Strict", "YES"), ("EXPTREE_OTHER__STRICT", "maybe"), ("exptree_precision", "+007")]
    let refused : Environment := [("EXPTREE_STRICT", "off"), ("EXPTREE_PRECISION", "-7")]
    accepted.Direct ∧ refused.Direct ∧
      (∀ base : Settings, ∃ result, base.withEnvironment accepted = .ok result ∧
        (∀ b, SaysTruth "YES" b ↔ b = result.strict) ∧ result.sample = base.sample ∧
        (∃ n : Nat, (∀ m, SaysNumber "+007" m ↔ m = n) ∧ result.precision = some n) ∧
        result.withEnvironment accepted = .ok result) ∧
      ∀ base : Settings, base.withEnvironment refused = .error (.negativePrecision (-7)) := by
  intro accepted refused
  have first : accepted.Direct := by decide +kernel
  have second : refused.Direct := by decide +kernel
  have strict : accepted.setting? "strict" = some "YES" := by decide +kernel
  have sample : accepted.setting? "sample_expression" = none := by decide +kernel
  have precision : accepted.setting? "precision" = some "+007" := by decide +kernel
  have yes : SaysTruth "YES" true := ⟨"yes", by decide, rfl⟩
  have seven : SaysNumber "+007" (7 : Nat) := by
    have digits : SaysInteger ['+', '0', '0', '7'] 7 :=
      .plus (List.cons_ne_nil '0' ['0', '7']) (by simp)
    exact .digits digits (by decide) (by decide)
  have off : refused.setting? "strict" = some "off" := by decide +kernel
  have below : refused.setting? "precision" = some "-7" := by decide +kernel
  have negative : SaysInteger ['-', '7'] (-7) := .minus (List.cons_ne_nil '7' []) (by simp)
  obtain ⟨_, success, fields, _⟩ := own_variables_decide first
  obtain ⟨_, _, _, failure⟩ := own_variables_decide second
  refine ⟨first, second, ?_, ?_⟩
  · intro base
    have strictFits : ∀ text ∈ accepted.setting? "strict", ∃ b, SaysTruth text b := by
      intro text present
      obtain rfl := Option.some.inj (strict.symm.trans present)
      exact ⟨true, yes⟩
    have precisionFits :
        ∀ text ∈ accepted.setting? "precision", ∃ n : Nat, SaysNumber text n := by
      intro text present
      obtain rfl := Option.some.inj (precision.symm.trans present)
      exact ⟨7, seven⟩
    obtain ⟨result, loaded⟩ := (success base).mpr ⟨strictFits, precisionFits⟩
    obtain ⟨_, truth, kept, _, _, number, again⟩ := fields base result loaded
    exact ⟨result, loaded, truth _ strict, kept sample, number _ precision, again⟩
  · intro base
    have strictFits : ∀ text ∈ refused.setting? "strict", ∃ b, SaysTruth text b := by
      intro text present
      obtain rfl := Option.some.inj (off.symm.trans present)
      exact ⟨false, "off", by decide, rfl⟩
    apply (failure base _).mpr
    exact .inr ⟨strictFits, "-7", below, .inl ⟨-7, negative, by decide, by decide, rfl, rfl⟩⟩

end Settings

end PolishCalc
