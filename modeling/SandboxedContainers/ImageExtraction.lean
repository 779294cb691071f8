import SandboxedContainers.KataInstall

/-!
# Files from container images

`extract_container_image` downloads an image to `/tmp/image`, unpacks it below `/tmp/unpacked`
and copies what was asked for.  Both places are the same for every call; at the end of a call
only the second is removed.  A failed download or unpacking is left to `error_exit`, which no
library of these scripts defines: the shell does not find it, and goes on unless `set -e` counts.

A `Scratch` tells for every file which image it was unpacked from, and by which call.
-/

namespace SandboxedContainers

namespace Extraction

open Lib ShellScript

/-- The arguments of a call, and whether `set -e` counts for it: not in the condition of an `if`. -/
structure ExtractCall where
  image : String
  copySrc : List String
  copyDes : String
  authJsonFile : String
  errexit : Bool
  deriving DecidableEq, Repr

inductive ExtractTool where
  /-- `skopeo copy`, to the tag in `/tmp/image`. -/
  | skopeoCopy (authFile image : String)
  | umociUnpack
  /-- `[[ -e "$full_src" ]]`. -/
  | test (src : String)
  | cp (src des : String)
  | sleep
  | rm (paths : List String)
  | errorExit (message : String)
  deriving DecidableEq, Repr

def ExtractTool.isFetch : ExtractTool → Bool
  | .skopeoCopy _ _ | .umociUnpack => true
  | _ => false

def destinationPath : String := "/tmp/unpacked"

/-- `tool || error_exit message`. -/
def orErrorExit (errexit : Bool) (tool : ExtractTool) (message : String) : ShellScript ExtractTool PUnit := do
  if !(← succeeds tool) then
    let _ ← checked errexit (.errorExit message)

def copySource (call : ExtractCall) (src : String) : ShellScript ExtractTool PUnit := do
  if ← succeeds (.test src) then
    let _ ← checked call.errexit (.cp src call.copyDes)
  else
    -- `sleep infinity`
    let _ ← run .sleep
    exit 0

/-- The copies, and the removal of what was unpacked. -/
def copySources (call : ExtractCall) : ShellScript ExtractTool Nat := do
  call.copySrc.forM (copySource call)
  checked call.errexit (.rm [call.image, destinationPath])

def extractContainerImage (call : ExtractCall) : ShellScript ExtractTool Nat := do
  orErrorExit call.errexit (.skopeoCopy call.authJsonFile call.image) "Failed to download the container image"
  orErrorExit call.errexit .umociUnpack "Failed to extract the container image"
  copySources call

def authFile : String := "/tmp/regauth/auth.json"

def clientToolsCall (cliImage : String) : ExtractCall :=
  ⟨cliImage, ["/usr/bin/oc", "/usr/bin/kubectl"], "/usr/bin", authFile, true⟩

def rpmExtensionsCall (extensionImage : String) : ExtractCall :=
  ⟨extensionImage, ["/usr/share/rpm-ostree/extensions"], "/usr/share/rpm-ostree", authFile, true⟩

def addonCall (addonImage kernelSrc tempDir : String) : ExtractCall :=
  ⟨addonImage, [kernelSrc], tempDir, authFile, false⟩

structure UnpackedFile where
  path : String
  image : String
  call : Nat
  deriving DecidableEq, Repr

/-- What the calls leave behind: the image the tag stands for and the files that are unpacked; and
of the current call the tools it ran, with their statuses, and the files it copied. -/
structure Scratch where
  tagged : Option String := none
  unpacked : List UnpackedFile := []
  ran : Nat := 0
  call : Nat := 0
  steps : List (ExtractTool × Nat) := []
  copied : List UnpackedFile := []
  deriving DecidableEq, Repr

/-- How a tool ends, and which files one that fails has dealt with before. -/
structure ToolVerdict where
  status : Nat := 0
  reached : String → Bool := fun _ => true

def ToolVerdict.handles (verdict : ToolVerdict) (path : String) : Bool := verdict.status = 0 || verdict.reached path

def below (src path : String) : Bool := path = src || beginsWith (src ++ "/") path

section Tools

-- the files of an image, and how the tools end that run one after the other
variable (content : String → List String) (verdicts : Nat → ToolVerdict)

/-- Only `skopeo`, `umoci` and `cp` can fail for reasons of their own. -/
def Scratch.act (s : Scratch) (verdict : ToolVerdict) : ExtractTool → Nat × Scratch
  | .skopeoCopy _ image => (verdict.status, if verdict.status = 0 then { s with tagged := some image } else s)
  | .umociUnpack =>
    match s.tagged with
    | none => (1, s)
    | some image =>
      (verdict.status, { s with
        unpacked := s.unpacked ++ ((content image).filter verdict.handles).map (⟨·, image, s.call⟩) })
  | .test src => (if s.unpacked.any fun file => below src file.path then 0 else 1, s)
  | .cp src _ =>
    (verdict.status, { s with
      copied := s.copied ++ s.unpacked.filter (fun file => below src file.path && verdict.handles file.path) })
  | .sleep => (0, s)
  | .rm paths =>
    (0, { s with
      unpacked := if destinationPath ∈ paths then [] else s.unpacked
      tagged := if "/tmp/image" ∈ paths then none else s.tagged })
  | .errorExit _ => (127, s)

def Scratch.serve (s : Scratch) (tool : ExtractTool) : Output × Scratch :=
  let (status, s') := s.act content (verdicts s.ran) tool
  (⟨status, []⟩, { s' with ran := s.ran + 1, steps := s.steps ++ [(tool, status)] })

structure CallRun where
  call : ExtractCall
  number : Nat
  result : Except Nat Nat
  after : Scratch

/-- The calls of one script run, up to one that ends it or never returns. -/
def runCalls : List ExtractCall → Scratch → List CallRun
  | [], _ => []
  | call :: calls, s =>
    let ((result, _), after) := (extractContainerImage call).eval (Scratch.serve content verdicts) ()
      { s with call := s.call + 1, steps := [], copied := [] }
    ⟨call, s.call + 1, result, after⟩ ::
      match result with
      | .ok status => if call.errexit && status ≠ 0 then [] else runCalls calls after
      | .error _ => []

end Tools

def CallRun.FetchFailed (run : CallRun) : Prop := ∃ step ∈ run.after.steps, step.1.isFetch = true ∧ step.2 ≠ 0

instance (run : CallRun) : Decidable run.FetchFailed :=
  inferInstanceAs (Decidable (∃ step ∈ run.after.steps, step.1.isFetch = true ∧ step.2 ≠ 0))

/-- What the call copied was unpacked by this call from its image, and a call that could not
fetch the image does not return success. -/
def CallRun.Sound (run : CallRun) : Prop :=
  (∀ file ∈ run.after.copied, file.image = run.call.image ∧ file.call = run.number) ∧
    (run.FetchFailed → run.result ≠ .ok 0)

section Calls

variable {content : String → List String} {verdicts : Nat → ToolVerdict} {call : ExtractCall} {s s' : Scratch}

theorem inquiry_orErrorExit {p : ExtractTool → Prop} {errexit : Bool} {tool : ExtractTool} {message : String}
    (allowed : p tool) (fails : p (.errorExit message)) : Routine.Inquiry p (orErrorExit errexit tool message) := by
  unfold orErrorExit
  grind

theorem inquiry_copySources {p : ExtractTool → Prop} (others : ∀ tool, tool.isFetch = false → p tool)
    (call : ExtractCall) : Routine.Inquiry p (copySources call) := by
  have each (src : String) : Routine.Inquiry p (copySource call src) := by
    unfold copySource
    grind [ExtractTool.isFetch]
  unfold copySources
  grind [ExtractTool.isFetch, Routine.Inquiry.forM]

theorem orErrorExit_eval (errexit : Bool) (tool : ExtractTool) (message : String) :
    (orErrorExit errexit tool message).eval (Scratch.serve content verdicts) () s =
      if (s.serve content verdicts tool).1.status = 0 then ((.ok ⟨⟩, ()), (s.serve content verdicts tool).2)
      else ((if errexit then .error 127 else .ok ⟨⟩, ()),
        ((s.serve content verdicts tool).2.serve content verdicts (.errorExit message)).2) := by
  rw [orErrorExit, eval_succeeds_bind]
  by_cases works : (s.serve content verdicts tool).1.status = 0
  · simp [works]
  · cases errexit with
    | false => simp [works]; rfl
    | true => simp [works]; rfl

theorem eval_orErrorExit_bind {errexit : Bool} {tool : ExtractTool} {message : String} {α : Type}
    {next : PUnit → ShellScript ExtractTool α} (works : (s.serve content verdicts tool).1.status = 0) :
    (orErrorExit errexit tool message >>= next).eval (Scratch.serve content verdicts) () s =
      (next ⟨⟩).eval (Scratch.serve content verdicts) () (s.serve content verdicts tool).2 :=
  Routine.eval_bind_ok ((orErrorExit_eval _ _ _).trans (if_pos works)) next

/-- What the tools after the download and the unpacking do. -/
structure Kept (s s' : Scratch) : Prop where
  unpacked : ∀ file ∈ s'.unpacked, file ∈ s.unpacked
  copied : ∀ file ∈ s'.copied, file ∈ s.copied ∨ file ∈ s.unpacked
  fetches : s'.steps.filter (·.1.isFetch) = s.steps.filter (·.1.isFetch)

theorem Kept.trans {s₁ : Scratch} (first : Kept s s₁) (second : Kept s₁ s') : Kept s s' where
  unpacked file member := first.unpacked file (second.unpacked file member)
  copied file member := by
    rcases second.copied file member with early | late
    · exact first.copied file early
    · exact .inr (first.unpacked file late)
  fetches := second.fetches.trans first.fetches

theorem kept_serve (tool : ExtractTool) (other : tool.isFetch = false) : Kept s (s.serve content verdicts tool).2 := by
  have fetches : (s.steps ++ [(tool, (s.act content (verdicts s.ran) tool).1)]).filter (·.1.isFetch) =
      s.steps.filter (·.1.isFetch) := by
    rw [List.filter_append, List.filter_singleton, other]
    simp
  cases tool with
  | skopeoCopy authFile image => cases other
  | umociUnpack => cases other
  | test src => exact ⟨fun _ => id, fun _ => .inl, fetches⟩
  | cp src des =>
    refine ⟨fun _ => id, fun file member => ?_, fetches⟩
    rcases List.mem_append.mp member with early | late
    · exact .inl early
    · exact .inr (List.mem_of_mem_filter late)
  | sleep => exact ⟨fun _ => id, fun _ => .inl, fetches⟩
  | rm paths =>
    refine ⟨fun file member => ?_, fun _ => .inl, fetches⟩
    dsimp only [Scratch.serve, Scratch.act] at member
    split at member
    · cases member
    · exact member
  | errorExit message => exact ⟨fun _ => id, fun _ => .inl, fetches⟩

variable (content verdicts) in
theorem copySources_kept (call : ExtractCall) (s : Scratch) :
    Kept s ((copySources call).eval (Scratch.serve content verdicts) () s).2 := by
  apply (inquiry_copySources (fun _ => id) call).eval_rel (R := Kept)
  · exact fun _ => ⟨fun _ => id, fun _ => .inl, rfl⟩
  · exact Kept.trans
  · exact fun _ tool other => kept_serve tool other

theorem steps_kept {p : ExtractTool → Prop} {α : Type} {script : ShellScript ExtractTool α}
    (inquiry : Routine.Inquiry p script) {step : ExtractTool × Nat} (member : step ∈ s.steps) :
    step ∈ (script.eval (Scratch.serve content verdicts) () s).2.steps := by
  refine inquiry.eval_rel (R := fun s s' => ∀ step ∈ s.steps, step ∈ s'.steps) ?_ ?_ ?_ () s step member
  · exact fun _ _ => id
  · exact fun first second step member => second step (first step member)
  · exact fun _ _ _ _ member => List.mem_append_left _ member

section Failure

variable {tool : ExtractTool} {message : String} {rest : ShellScript ExtractTool Nat} {p : ExtractTool → Prop}
  {result : Except Nat Nat} {after : Scratch} {number : Nat}

theorem copied_fetch (fetch : tool.isFetch = true) : (s.serve content verdicts tool).2.copied = s.copied := by
  cases tool with
  | skopeoCopy authFile image =>
    dsimp only [Scratch.serve, Scratch.act]
    split <;> rfl
  | umociUnpack =>
    dsimp only [Scratch.serve, Scratch.act]
    split <;> rfl
  | _ => cases fetch

theorem sound_of_fetch_fails (inquiry : Routine.Inquiry p rest) (fetch : tool.isFetch = true) (copied : s.copied = [])
    (fails : (s.serve content verdicts tool).1.status ≠ 0)
    (ran : (orErrorExit call.errexit tool message >>= fun _ => rest).eval (Scratch.serve content verdicts) () s =
      ((result, ()), after))
    (careful : call.errexit = true ∨ ¬ CallRun.FetchFailed ⟨call, number, result, after⟩) :
    CallRun.Sound ⟨call, number, result, after⟩ := by
  have first : (orErrorExit call.errexit tool message).eval (Scratch.serve content verdicts) () s = _ :=
    orErrorExit_eval call.errexit tool message
  rw [if_neg fails] at first
  cases errexit : call.errexit with
  | true =>
    rw [errexit] at first ran
    rw [Routine.eval_bind_error first] at ran
    cases ran
    have nothing : (s.serve content verdicts tool).2.copied = [] := (copied_fetch fetch).trans copied
    refine ⟨fun file member => ?_, fun _ => nofun⟩
    change file ∈ (s.serve content verdicts tool).2.copied at member
    rw [nothing] at member
    cases member
  | false =>
    rw [errexit] at first ran
    rw [Routine.eval_bind_ok first] at ran
    refine absurd ?_ (careful.resolve_left (by simp [errexit]))
    refine ⟨(tool, (s.serve content verdicts tool).1.status), ?_, fetch, fails⟩
    have known : (tool, (s.serve content verdicts tool).1.status) ∈ (rest.eval (Scratch.serve content verdicts) ()
        ((s.serve content verdicts tool).2.serve content verdicts (.errorExit message)).2).2.steps :=
      steps_kept inquiry (List.mem_append_left _ (by simp [Scratch.serve]))
    rw [ran] at known
    exact known

end Failure

theorem serve_download {authFile image : String}
    (works : (s.serve content verdicts (.skopeoCopy authFile image)).1.status = 0) :
    (s.serve content verdicts (.skopeoCopy authFile image)).2 = { s with
      tagged := some image, ran := s.ran + 1, steps := s.steps ++ [(.skopeoCopy authFile image, 0)] } := by
  have okay : (verdicts s.ran).status = 0 := works
  simp [Scratch.serve, Scratch.act, okay]

theorem unpacked_download {image : String} (clean : s.unpacked = []) (tagged : s.tagged = some image) :
    ∀ file ∈ (s.serve content verdicts .umociUnpack).2.unpacked, file.image = image ∧ file.call = s.call := by
  simp only [Scratch.serve, Scratch.act, tagged, clean, List.nil_append]
  intro file member
  obtain ⟨path, _, rfl⟩ := List.mem_map.mp member
  exact ⟨rfl, rfl⟩

section Success

variable {result : Except Nat Nat} {after : Scratch}

theorem sound_of_download (clean : s.unpacked = []) (tagged : s.tagged = some call.image)
    (fetched : ∀ step ∈ s.steps, step.2 = 0) (copied : s.copied = [])
    (ran : (do
      orErrorExit call.errexit .umociUnpack "Failed to extract the container image"
      copySources call).eval (Scratch.serve content verdicts) () s = ((result, ()), after))
    (careful : call.errexit = true ∨ ¬ CallRun.FetchFailed ⟨call, s.call, result, after⟩) :
    CallRun.Sound ⟨call, s.call, result, after⟩ := by
  by_cases extracted : (s.serve content verdicts .umociUnpack).1.status = 0
  · rw [eval_orErrorExit_bind extracted] at ran
    have kept : Kept (s.serve content verdicts .umociUnpack).2 after := by
      have all := copySources_kept content verdicts call (s.serve content verdicts .umociUnpack).2
      rw [ran] at all
      exact all
    refine ⟨fun file member => ?_, ?_⟩
    · rcases kept.copied file member with early | late
      · rw [copied_fetch rfl, copied] at early
        cases early
      · exact unpacked_download clean tagged file late
    · rintro ⟨step, member, fetch, fails⟩
      have recorded : step ∈ after.steps.filter (·.1.isFetch) := List.mem_filter.mpr ⟨member, fetch⟩
      rw [kept.fetches] at recorded
      rcases List.mem_append.mp (List.mem_of_mem_filter recorded) with early | last
      · exact absurd (fetched step early) fails
      · cases List.mem_singleton.mp last
        exact absurd extracted fails
  · exact sound_of_fetch_fails (inquiry_copySources (fun _ => id) call) rfl copied extracted ran careful

/-- A call in a clean place is sound where `set -e` counts, and where nothing fails that fetches
the image. -/
theorem extractContainerImage_sound (clean : s.unpacked = []) (steps : s.steps = []) (copied : s.copied = [])
    (ran : (extractContainerImage call).eval (Scratch.serve content verdicts) () s = ((result, ()), after))
    (careful : call.errexit = true ∨ ¬ CallRun.FetchFailed ⟨call, s.call, result, after⟩) :
    CallRun.Sound ⟨call, s.call, result, after⟩ := by
  rw [extractContainerImage] at ran
  by_cases downloaded : (s.serve content verdicts (.skopeoCopy call.authJsonFile call.image)).1.status = 0
  · rw [eval_orErrorExit_bind downloaded, serve_download downloaded, steps] at ran
    apply sound_of_download _ _ _ _ ran careful
    · exact clean
    · rfl
    · simp
    · exact copied
  · exact sound_of_fetch_fails ((inquiry_orErrorExit trivial trivial).bind fun _ =>
      inquiry_copySources (p := fun _ => True) (fun _ _ => trivial) call) rfl copied downloaded ran careful

end Success

theorem unpacked_of_returned {after : Scratch} {status : Nat}
    (ran : (extractContainerImage call).eval (Scratch.serve content verdicts) () s = ((.ok status, ()), after)) :
    after.unpacked = [] := by
  obtain ⟨_, ⟨⟩, _, _, unpack⟩ := Routine.of_eval_bind ran
  obtain ⟨_, ⟨⟩, _, _, copy⟩ := Routine.of_eval_bind unpack
  obtain ⟨_, ⟨⟩, s₁, _, remove⟩ := Routine.of_eval_bind copy
  have removed : (checked call.errexit (.rm [call.image, destinationPath])).eval (Scratch.serve content verdicts) () s₁ =
      ((.ok 0, ()), (s₁.serve content verdicts (.rm [call.image, destinationPath])).2) := by
    rw [checked, eval_run_bind, if_neg (by simp [Scratch.serve, Scratch.act])]
    rfl
  rw [removed] at remove
  cases remove
  simp [Scratch.serve, Scratch.act]

theorem runCalls_sound (calls : List ExtractCall) (clean : s.unpacked = [])
    (careful : ∀ run ∈ runCalls content verdicts calls s, run.call.errexit = true ∨ ¬ run.FetchFailed) :
    ∀ run ∈ runCalls content verdicts calls s, run.Sound := by
  induction calls generalizing s with
  | nil => exact nofun
  | cons call calls ih =>
    rcases ran : (extractContainerImage call).eval (Scratch.serve content verdicts) ()
      { s with call := s.call + 1, steps := [], copied := [] } with ⟨⟨result, ⟨⟩⟩, after⟩
    simp only [runCalls, ran] at careful ⊢
    rw [List.forall_mem_cons] at careful ⊢
    refine ⟨extractContainerImage_sound (s := { s with call := s.call + 1, steps := [], copied := [] }) clean rfl rfl ran
      careful.1, ?_⟩
    cases result with
    | error status => exact nofun
    | ok status =>
      dsimp only at careful ⊢
      split
      · exact nofun
      · next goesOn =>
        rw [if_neg goesOn] at careful
        exact ih (unpacked_of_returned ran) careful.2

/-- In a script run where every call for which `set -e` does not count succeeds in fetching its
image, every call is sound. -/
theorem extractions_sound (content : String → List String) (verdicts : Nat → ToolVerdict) (calls : List ExtractCall)
    (careful : ∀ run ∈ runCalls content verdicts calls {}, run.call.errexit = true ∨ ¬ run.FetchFailed) :
    ∀ run ∈ runCalls content verdicts calls {}, run.Sound :=
  runCalls_sound calls rfl careful

end Calls

def releaseContent (image : String) : List String :=
  if image = "cli" then ["/usr/bin/oc", "/usr/bin/kubectl"]
  else if image = "extensions" then ["/usr/share/rpm-ostree/extensions/kata.rpm", "/boot/vmlinuz"]
  else ["/boot/vmlinuz"]

def installCalls : List ExtractCall :=
  [clientToolsCall "cli", rpmExtensionsCall "extensions", addonCall "addon" "/boot/vmlinuz" "/tmp/kata-addons-1"]

def failsAt (number ran : Nat) : ToolVerdict := if ran = number then { status := 1, reached := fun _ => false } else {}

/-- Every call of an installation without failures is sound. -/
theorem extractions_sound_install :
    (∀ run ∈ runCalls releaseContent (fun _ => {}) installCalls {}, run.call.errexit = true ∨ ¬ run.FetchFailed) ∧
      ∀ run ∈ runCalls releaseContent (fun _ => {}) installCalls {}, run.Sound :=
  ⟨by decide +kernel, extractions_sound releaseContent (fun _ => {}) installCalls (by decide +kernel)⟩

/-- The download of the addon image fails; the kernel is taken from the image of the extensions,
and the call returns success. -/
theorem extraction_takes_other_image : ∃ run ∈ runCalls releaseContent (failsAt 12) installCalls {},
      run.call = addonCall "addon" "/boot/vmlinuz" "/tmp/kata-addons-1" ∧ run.FetchFailed ∧ run.result = .ok 0 ∧
        run.after.copied = [⟨"/boot/vmlinuz", "extensions", 3⟩] ∧ ¬ run.Sound := by
  obtain ⟨run, member, same⟩ : ∃ run ∈ runCalls releaseContent (failsAt 12) installCalls {},
      run.call = addonCall "addon" "/boot/vmlinuz" "/tmp/kata-addons-1" ∧ run.FetchFailed ∧ run.result = .ok 0 ∧
        run.after.copied = [⟨"/boot/vmlinuz", "extensions", 3⟩] := by decide +kernel
  exact ⟨run, member, same.1, same.2.1, same.2.2.1, same.2.2.2, fun sound => sound.2 same.2.1 same.2.2.1⟩

end Extraction

end SandboxedContainers
