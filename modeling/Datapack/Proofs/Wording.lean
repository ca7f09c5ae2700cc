import Datapack.Session

namespace Datapack.Proofs.Wording

variable {cause : Cause} {failure : Failure} {behind : Option Cause} {context t : Text}

inductive Reason : Cause → Text → Prop
  | notFound : Reason .notFound "No such file or directory (os error 2)".toList
  | alreadyExists : Reason .alreadyExists "File exists (os error 17)".toList
  | notDirectory : Reason .notDirectory "Not a directory (os error 20)".toList
  | isDirectory : Reason .isDirectory "Is a directory (os error 21)".toList
  | nameTooLong : Reason .nameTooLong "File name too long (os error 36)".toList
  | nulInName : Reason .nulInName "file name contained an unexpected NUL byte".toList
  | notUtf8 : Reason .notUtf8 "stream did not contain valid UTF-8".toList
  | other (words : Text) : Reason (.other words) words

inductive Says : Failure → Text → Option Cause → Prop
  | readSource (path : Path) (cause : Cause) :
      Says (.readSource path cause) ("cannot read source file ".toList ++ path.text) (some cause)
  | createDirectory (path : Path) (cause : Cause) :
      Says (.createDirectory path cause) ("cannot create directory ".toList ++ path.text)
        (some cause)
  | writeFile (path : Path) (cause : Cause) :
      Says (.writeFile path cause) ("cannot write ".toList ++ path.text) (some cause)
  | prompt (cause : Cause) : Says (.prompt cause) "failed to read from stdin".toList (some cause)
  | noSource : Says (.noAnswer .source) "no source path given".toList none
  | noTarget : Says (.noAnswer .target) "no export path given".toList none

inductive Chain : Failure → Text → Prop
  | alone {failure words} (h : Says failure words none) : Chain failure words
  | caused {failure words cause reason} (h : Says failure words (some cause))
      (hreason : Reason cause reason) : Chain failure (words ++ ": ".toList ++ reason)

def opening (context : Text) : Text := "Error creating datapack: ".toList ++ context ++ ": ".toList

def resolving : Text := "Resolving input/output paths".toList

def compiling (source : Path) : Text := "Compiling ".toList ++ source.text

/-- One line: what went on, what failed, and why. -/
inductive Reports (context : Text) (failure : Failure) : Text → Prop
  | line {words} (h : Chain failure words) :
      Reports context failure (opening context ++ words ++ ['\n'])

theorem reason_iff : Reason cause t ↔ cause.message = t := by
  constructor
  · intro h
    cases h <;> rfl
  · rintro rfl
    cases cause <;> constructor

theorem says_iff : Says failure t behind ↔ failure.message = t ∧ failure.cause? = behind := by
  constructor
  · intro h
    cases h <;> exact ⟨rfl, rfl⟩
  · rintro ⟨rfl, rfl⟩
    cases failure with
    | noAnswer question => cases question <;> constructor
    | readSource path cause | createDirectory path cause | writeFile path cause | prompt cause =>
        constructor

theorem chain_iff : Chain failure t ↔ failure.chain = t := by
  constructor
  · intro h
    cases h with
    | alone h =>
        obtain ⟨rfl, hcause⟩ := says_iff.1 h
        rw [Failure.chain, hcause]
    | caused h hreason =>
        obtain ⟨rfl, hcause⟩ := says_iff.1 h
        obtain rfl := reason_iff.1 hreason
        rw [Failure.chain, hcause]
  · rintro rfl
    have hsays : Says failure failure.message failure.cause? := says_iff.2 ⟨rfl, rfl⟩
    rw [Failure.chain]
    cases hcause : failure.cause? with
    | none =>
        rw [hcause] at hsays
        exact .alone hsays
    | some cause =>
        rw [hcause] at hsays
        have hreason : Reason cause cause.message := reason_iff.2 rfl
        exact .caused hsays hreason

theorem reports_iff (stage : Stage) :
    Reports stage.text failure t ↔ (Ending.failed stage failure).complaint = t := by
  have hcomplaint : (Ending.failed stage failure).complaint =
      opening stage.text ++ failure.chain ++ ['\n'] := rfl
  rw [hcomplaint]
  constructor
  · rintro ⟨h⟩
    rw [chain_iff.1 h]
  · rintro rfl
    exact .line (chain_iff.2 rfl)

theorem Reports.opened (h : Reports context failure t) : opening context <+: t := by
  cases h with
  | line h =>
      rw [List.append_assoc]
      exact List.prefix_append _ _

theorem Reports.not_opened {source : Path} (h : Reports (compiling source) failure t) :
    ¬opening resolving <+: t := by
  cases h with
  | line h =>
      rintro ⟨rest, hrest⟩
      -- the first letters of the contexts
      have hfirst : some 'R' = some 'C' := congrArg (·[25]?) hrest
      cases hfirst

end Datapack.Proofs.Wording
