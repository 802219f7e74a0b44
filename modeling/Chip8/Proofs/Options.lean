import Chip8.CommandLine.Run

/-!
# Options settled

Where the options of a run come from: an argument wins over the environment, and the environment
over what holds without either.
-/

namespace Chip8

namespace AddressStep

theorem name_injective {step other : AddressStep} (h : step.name = other.name) : step = other := by
  cases step <;> cases other
  · rfl
  · contradiction
  · contradiction
  · rfl

/-- A text in any case and with blanks around it names the step that it spells. -/
theorem ofName_eq_ok_iff {text : Text} {step : AddressStep} :
    ofName text = .ok step ↔ Text.lower (Text.trim Text.isBlank text) = step.name := by
  unfold ofName
  dsimp only
  split
  case isTrue hwidth =>
    rw [hwidth]
    exact ⟨fun h => congrArg name (Except.ok.inj h),
      fun h => congrArg Except.ok (name_injective h)⟩
  case isFalse hwidth =>
    split
    case isTrue hfixed =>
      rw [hfixed]
      exact ⟨fun h => congrArg name (Except.ok.inj h),
        fun h => congrArg Except.ok (name_injective h)⟩
    case isFalse hfixed =>
      refine iff_of_false (fun h => by contradiction) fun h => ?_
      cases step with
      | byWidth => exact hwidth h
      | fixed => exact hfixed h

theorem ofName_name (step : AddressStep) : ofName step.name = .ok step := by
  rw [ofName_eq_ok_iff]
  cases step with
  | byWidth => decide +kernel
  | fixed => decide +kernel

end AddressStep

namespace Options

variable {environment : Environment} {value : Text} {step : AddressStep}

/-- An empty value names no step, so it need not be told from none. -/
theorem addressStep_ofEnvironment (environment : Environment) :
    (ofEnvironment environment).addressStep =
      match (environment.lookup Environment.addressStepVariable).map AddressStep.ofName with
      | some (.ok step) => step
      | _ => .byWidth := by
  unfold ofEnvironment Environment.value?
  cases environment.lookup Environment.addressStepVariable with
  | none => rfl
  | some value =>
      cases value with
      | nil => rfl
      | cons c rest => rfl

theorem strictLabels_ofEnvironment (environment : Environment) :
    (ofEnvironment environment).strictLabels =
      ((environment.lookup Environment.strictLabelsVariable).map isAffirmed).getD false := by
  unfold ofEnvironment Environment.value?
  cases environment.lookup Environment.strictLabelsVariable with
  | none => rfl
  | some value =>
      cases value with
      | nil => rfl
      | cons c rest => rfl

theorem addressStep_of_named
    (hvalue : environment.lookup Environment.addressStepVariable = some value)
    (hname : Text.lower (Text.trim Text.isBlank value) = step.name) :
    (ofEnvironment environment).addressStep = step := by
  rw [addressStep_ofEnvironment, hvalue, Option.map_some,
    AddressStep.ofName_eq_ok_iff.mpr hname]

theorem addressStep_of_unnamed
    (h : ∀ value, environment.lookup Environment.addressStepVariable = some value →
      ∀ step : AddressStep, Text.lower (Text.trim Text.isBlank value) ≠ step.name) :
    (ofEnvironment environment).addressStep = .byWidth := by
  rw [addressStep_ofEnvironment]
  split
  case h_1 step hstep =>
    obtain ⟨value, hvalue, hname⟩ := Option.map_eq_some_iff.mp hstep
    exact absurd (AddressStep.ofName_eq_ok_iff.mp hname) (h value hvalue step)
  case h_2 => rfl

theorem isAffirmed_iff :
    isAffirmed value = true ↔ Text.lower (Text.trim Text.isBlank value) ∈ affirmations :=
  List.contains_iff_mem

theorem strictLabels_ofEnvironment_iff :
    (ofEnvironment environment).strictLabels = true ↔
      ∃ value, environment.lookup Environment.strictLabelsVariable = some value ∧
        Text.lower (Text.trim Text.isBlank value) ∈ affirmations := by
  rw [strictLabels_ofEnvironment]
  cases environment.lookup Environment.strictLabelsVariable with
  | none => simp
  | some value => simpa using isAffirmed_iff

end Options

namespace CommandLine

/-- Holds of the options that a call settles in an environment.  The call wins; without it counts
the value of the variable, in any case and with blanks around it; a value that names no address step
counts for nothing. -/
structure Settled (environment : Environment) (call : Call) (options : Options) : Prop where
  stepGiven : ∀ value, call.addressStep = some value →
    Text.lower (Text.trim Text.isBlank value) = options.addressStep.name
  stepSet : call.addressStep = none →
    ∀ value, environment.lookup Environment.addressStepVariable = some value →
      ∀ step : AddressStep, Text.lower (Text.trim Text.isBlank value) = step.name →
        options.addressStep = step
  stepUnset : call.addressStep = none →
    (∀ value, environment.lookup Environment.addressStepVariable = some value →
      ∀ step : AddressStep, Text.lower (Text.trim Text.isBlank value) ≠ step.name) →
    options.addressStep = .byWidth
  strictGiven : ∀ on, call.strictLabels = some on → options.strictLabels = on
  strictSet : call.strictLabels = none →
    (options.strictLabels = true ↔
      ∃ value, environment.lookup Environment.strictLabelsVariable = some value ∧
        Text.lower (Text.trim Text.isBlank value) ∈ ["1", "true", "yes", "on"].map String.toList)

section

variable {environment : Environment} {call : Call} {options others : Options} {request : Request}

theorem Settled.of_ofEnvironment
    (hgiven : ∀ value, call.addressStep = some value →
      Text.lower (Text.trim Text.isBlank value) = options.addressStep.name)
    (hstep : call.addressStep = none →
      options.addressStep = (Options.ofEnvironment environment).addressStep)
    (hstrict : options.strictLabels =
      call.strictLabels.getD (Options.ofEnvironment environment).strictLabels) :
    Settled environment call options where
  stepGiven := hgiven
  stepSet hnone value hvalue step hname :=
    (hstep hnone).trans (Options.addressStep_of_named hvalue hname)
  stepUnset hnone hunnamed := (hstep hnone).trans (Options.addressStep_of_unnamed hunnamed)
  strictGiven on hon := by rw [hstrict, hon, Option.getD_some]
  strictSet hnone := by
    rw [hstrict, hnone, Option.getD_none]
    exact Options.strictLabels_ofEnvironment_iff

/-- No other options are settled. -/
theorem Settled.unique (h : Settled environment call options)
    (h' : Settled environment call others) : options = others := by
  have hstep : options.addressStep = others.addressStep := by
    cases hgiven : call.addressStep with
    | some value =>
        exact AddressStep.name_injective
          ((h.stepGiven value hgiven).symm.trans (h'.stepGiven value hgiven))
    | none =>
        by_cases hnamed : ∃ value,
            environment.lookup Environment.addressStepVariable = some value ∧
              ∃ step : AddressStep, Text.lower (Text.trim Text.isBlank value) = step.name
        · obtain ⟨value, hvalue, step, hname⟩ := hnamed
          rw [h.stepSet hgiven value hvalue step hname, h'.stepSet hgiven value hvalue step hname]
        · have hunnamed : ∀ value,
              environment.lookup Environment.addressStepVariable = some value →
                ∀ step : AddressStep, Text.lower (Text.trim Text.isBlank value) ≠ step.name :=
            fun value hvalue step hname => hnamed ⟨value, hvalue, step, hname⟩
          rw [h.stepUnset hgiven hunnamed, h'.stepUnset hgiven hunnamed]
  have hstrict : options.strictLabels = others.strictLabels := by
    cases hgiven : call.strictLabels with
    | some on => rw [h.strictGiven on hgiven, h'.strictGiven on hgiven]
    | none => exact Bool.eq_iff_iff.mpr ((h.strictSet hgiven).trans (h'.strictSet hgiven).symm)
  cases options
  cases others
  simp_all

namespace Request

/-- What a request takes from a call. -/
structure Follows (environment : Environment) (call : Call) (request : Request) : Prop where
  input : request.input = call.input
  output : call.imagePath? = some request.output
  listing : request.listing = call.listing
  options : Settled environment call request.options
  verbose : request.verbose = call.verbose

theorem exists_ofCall? (hnamed : call.input.parts ≠ [])
    (hstep : ∀ value, call.addressStep = some value → ∃ step : AddressStep, value = step.name) :
    ∃ request, ofCall? environment call = some request := by
  obtain ⟨output, houtput⟩ : ∃ output, call.imagePath? = some output := by
    unfold Call.imagePath? Path.withExtension?
    rw [List.getLast?_eq_some_getLast hnamed]
    cases call.output with
    | none => exact ⟨_, rfl⟩
    | some path => exact ⟨path, rfl⟩
  unfold ofCall?
  cases hgiven : call.addressStep with
  | none => simp [houtput]
  | some value =>
      obtain ⟨step, rfl⟩ := hstep value hgiven
      simp [houtput, AddressStep.ofName_name, Except.toOption]

/-- The request of a call takes everything from the call, or from the environment. -/
theorem follows_of_ofCall? (h : ofCall? environment call = some request) :
    request.Follows environment call := by
  unfold ofCall? at h
  cases hgiven : call.addressStep with
  | none =>
      simp only [hgiven, Option.bind_eq_bind, Option.bind_some, Option.bind_eq_some_iff] at h
      obtain ⟨output, houtput, hrequest⟩ := h
      obtain rfl := Option.some.inj hrequest
      exact ⟨rfl, houtput, rfl, .of_ofEnvironment (by simp [hgiven]) (fun _ => rfl) rfl, rfl⟩
  | some value =>
      simp only [hgiven, Option.bind_eq_bind, Option.bind_eq_some_iff] at h
      obtain ⟨step, hstep, output, houtput, hrequest⟩ := h
      obtain rfl := Option.some.inj hrequest
      have hname : AddressStep.ofName value = .ok step := by
        cases hnamed : AddressStep.ofName value with
        | error unknown => rw [hnamed] at hstep; contradiction
        | ok other => rw [hnamed] at hstep; exact congrArg Except.ok (Option.some.inj hstep)
      refine ⟨rfl, houtput, rfl, .of_ofEnvironment ?_ (by simp [hgiven]) rfl, rfl⟩
      intro other hother
      obtain rfl := Option.some.inj (hgiven.symm.trans hother)
      exact AddressStep.ofName_eq_ok_iff.mp hname

end Request

end

end CommandLine

end Chip8
