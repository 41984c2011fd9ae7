/-
# IdlBindings.Proofs.CallbackParameters: one argument list in two JavaScript renderings.

A callback shows its arguments in its comment, one line for each.  An operation shows them in the type of a function,
all in one line.  Both spell the types in the same words, so an argument that may be left out is marked in both.  The
three dots of a variadic argument are written in the type of a function only.  So the two renderings have the same
types exactly if no argument is variadic.
-/
import IdlBindings.Proofs.OwnFiles

namespace IdlBindings

namespace JavaScript

variable {context : RenderContext}

/-! ## The types of arguments -/

/-- The type of an argument in the type of a function: three dots stand before it if it may be repeated. -/
def repeatable (argument : Argument) (type : String) : String :=
  if argument.variadic then "..." ++ type else type

theorem repeatable_eq_self {argument : Argument} {type : String} :
    type = repeatable argument type ↔ argument.variadic = false := by
  cases variadic : argument.variadic with
  | false => simp [repeatable, variadic]
  | true =>
    simp only [repeatable, variadic, if_true, Bool.true_eq_false, iff_false]
    intro same
    have length := congrArg String.length same
    rw [String.length_append] at length
    have dots : "...".length = 3 := rfl
    omega

/-- The type of an argument is what the target spells. -/
theorem spellArgument_of_argumentType {argument : Argument} {type : String}
    (found : argumentType context argument = .ok type) : context.types.spellArgument argument = .ok type := by
  obtain ⟨_, -, spelled⟩ := bind_eq_ok.1 found
  exact spelled

/-! ## Two renderings of arguments -/

/-- A callback has a line for each argument, with its type. -/
theorem callbackLines_eq_ok {d : Definition} {lines : List String} (documented : callbackLines context d = .ok lines) :
    ∃ type : Argument → String, (∀ a ∈ d.arguments, argumentType context a = .ok (type a))
      ∧ ∃ results, (∀ line ∈ results, ∃ returned, line = "@returns " ++ braced returned)
        ∧ lines = ("@callback " ++ d.name)
            :: d.arguments.map (fun a => "@param " ++ braced (type a) ++ " " ++ a.name) ++ results := by
  obtain ⟨parameters, mapped, documented⟩ := bind_eq_ok.1 documented
  obtain ⟨type, rfl, each⟩ := exists_results_of_mapM mapped
  refine ⟨type, each, ?_⟩
  cases typed : d.type with
  | none =>
    rw [typed] at documented
    exact ⟨[], by simp, (Except.ok.inj documented).symm⟩
  | some returned =>
    rw [typed] at documented
    obtain ⟨spelled, -, documented⟩ := bind_eq_ok.1 documented
    exact ⟨["@returns " ++ braced spelled], by simp, (Except.ok.inj documented).symm⟩

/-- The type of a function lists the types of its arguments. -/
theorem functionType_eq_ok {arguments : List Argument} {returned text : String}
    (typed : functionType context arguments returned = .ok text) :
    ∃ type : Argument → String, (∀ a ∈ arguments, argumentType context a = .ok (type a))
      ∧ text = "function(" ++ ", ".intercalate (arguments.map fun a => repeatable a (type a)) ++ "): " ++ returned := by
  obtain ⟨parameters, mapped, typed⟩ := bind_eq_ok.1 typed
  obtain ⟨type, rfl, each⟩ := exists_results_of_mapM mapped
  exact ⟨type, each, (Except.ok.inj typed).symm⟩

/-- Each argument has one type, which its line in the comment of a callback shows as it is.  The type of a function
puts three dots before it if the argument is variadic.  So the types are the same exactly if no argument is. -/
theorem callback_types_agree_iff {d : Definition} {lines : List String} {returned text : String}
    (documented : callbackLines context d = .ok lines) (typed : functionType context d.arguments returned = .ok text) :
    ∃ type : Argument → String, (∀ a ∈ d.arguments, context.types.spellArgument a = .ok (type a))
      ∧ (∃ results, (∀ line ∈ results, ∃ returned, line = "@returns " ++ braced returned)
        ∧ lines = ("@callback " ++ d.name)
            :: d.arguments.map (fun a => "@param " ++ braced (type a) ++ " " ++ a.name) ++ results)
      ∧ text = "function(" ++ ", ".intercalate (d.arguments.map fun a => repeatable a (type a)) ++ "): " ++ returned
      ∧ (d.arguments.map type = d.arguments.map (fun a => repeatable a (type a))
        ↔ ∀ a ∈ d.arguments, a.variadic = false) := by
  obtain ⟨type, each, shown⟩ := callbackLines_eq_ok documented
  obtain ⟨type', each', rfl⟩ := functionType_eq_ok typed
  have same : ∀ a ∈ d.arguments, type' a = type a :=
    fun a inside => Except.ok.inj ((each' a inside).symm.trans (each a inside))
  refine ⟨type, fun a inside => spellArgument_of_argumentType (each a inside), shown, ?_, ?_⟩
  · rw [List.map_congr_left fun a inside => congrArg (repeatable a) (same a inside)]
  · simp only [List.map_inj_left, repeatable_eq_self]

/-- A callback with an argument that may be left out and has a default. -/
def doneCallback : Definition :=
  { kind := .callback, name := "Done", type := some (.named "void")
    arguments := [⟨"message", .named "DOMString", false, false, none, []⟩,
      ⟨"force", .named "boolean", true, false, some ⟨.boolean, "false"⟩, []⟩] }

/-- An argument that may be left out is marked in both renderings. -/
theorem callback_types_agree_done :
    callbackLines ⟨.javascript, [doneCallback], {}⟩ doneCallback = .ok ["@callback Done",
        "@param \x7bstring\x7d message", "@param \x7bboolean=\x7d force", "@returns \x7bvoid\x7d"]
      ∧ functionType ⟨.javascript, [doneCallback], {}⟩ doneCallback.arguments "void"
        = .ok "function(string, boolean=): void"
      ∧ ∃ type : Argument → String, (∀ a ∈ doneCallback.arguments,
            TypeSpelling.javascript.spellArgument a = .ok (type a))
          ∧ doneCallback.arguments.map type = doneCallback.arguments.map (fun a => repeatable a (type a)) := by
  have documented : callbackLines ⟨.javascript, [doneCallback], {}⟩ doneCallback = .ok ["@callback Done",
      "@param \x7bstring\x7d message", "@param \x7bboolean=\x7d force", "@returns \x7bvoid\x7d"] := by decide +kernel
  have typed : functionType ⟨.javascript, [doneCallback], {}⟩ doneCallback.arguments "void"
      = .ok "function(string, boolean=): void" := by decide +kernel
  obtain ⟨type, spelled, -, -, agree⟩ := callback_types_agree_iff documented typed
  exact ⟨documented, typed, type, spelled, agree.2 (by decide)⟩

/-- A callback with a variadic argument. -/
def logCallback : Definition :=
  { kind := .callback, name := "Log", type := some (.named "void")
    arguments := [⟨"parts", .named "long", false, true, none, []⟩] }

/-- An interface with an operation that has the same argument. -/
def loggerInterface : Definition :=
  { kind := .interface, name := "Logger"
    members := [{ kind := .operation, name := "log", type := .named "void", arguments := logCallback.arguments }] }

/-- The operation says that its argument may be repeated, and the callback does not. -/
theorem callback_types_miss_ellipsis :
    Schema.parse "callback Log = void (long... parts); interface Logger \x7b void log(long... parts); \x7d;"
        = .ok [logCallback, loggerInterface]
      ∧ Target.javascript.render [logCallback, loggerInterface] {} = .ok [⟨"bindings.js", "'use strict';\n\n"
          ++ "/**\n * @callback Log\n * @param \x7bnumber\x7d parts\n * @returns \x7bvoid\x7d\n */\n\n"
          ++ "/**\n * @interface Logger\n * @property \x7bfunction(...number): void\x7d log\n */\n"⟩]
      ∧ callbackLines ⟨.javascript, [logCallback, loggerInterface], {}⟩ logCallback
        = .ok ["@callback Log", "@param " ++ braced "number" ++ " parts", "@returns \x7bvoid\x7d"]
      ∧ functionType ⟨.javascript, [logCallback, loggerInterface], {}⟩ logCallback.arguments "void"
        = .ok ("function(" ++ ", ".intercalate ["...number"] ++ "): void")
      ∧ ["number"] ≠ ["...number"] := by
  exact ⟨by decide +kernel, by decide +kernel, by decide +kernel, by decide +kernel, by decide⟩

end JavaScript

end IdlBindings
