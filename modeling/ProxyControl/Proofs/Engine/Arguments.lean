import ProxyControl.Engine.Child
import ProxyControl.Profile.Validation
import ProxyControl.Proofs.Files.Replacement
import Mathlib.Data.List.Basic

/-!
# Sessions told apart by their command line

The arguments of a session are options in a fixed order, and then those that are the same for all
sessions. An option that is not given leaves nothing behind, and a value may look like a flag. Still
the options can be read off again from the front: the first argument either is the flag of the
option in question, or the option is missing and this is the flag of a later one, or the end. As
each flag has a fixed number of values, no value is ever taken for a flag.

The user name and the password share one value. The colon between them is the first in it, as a
profile that can be used has none in its user name.

## Main definitions

* `Choice`: an option, given or not
* `StartParams.choices`: the options of a session
* `Assignment`: what a session is started for
* `Assignment.Agree`: assignments between which a command line makes no difference
* `ProgramConfig.handed`: the arguments that a program is started with

## Main results

* `Choice.flatMap_spelled_inj`: options of different flags can be read off again
* `ProgramConfig.handed_eq_iff`: equal command lines are those of assignments that agree
-/

set_option autoImplicit false

namespace ProxyControl

open Text

/-! ## Options -/

/-- An option of a command line, given or not: one with a value, or one that is only a flag. -/
inductive Choice where
  | valued (flag : String) (value : Option String)
  | switch (flag : String) (on : Bool)
  deriving DecidableEq, Repr

namespace Choice

def flag : Choice → String
  | valued flag _ => flag
  | switch flag _ => flag

/-- The arguments that spell an option. -/
def spelled : Choice → List String
  | valued flag (some value) => [flag, value]
  | valued _ none => []
  | switch flag true => [flag]
  | switch _ false => []

/-- Both are the same option. -/
inductive SameKind : Choice → Choice → Prop
  | valued (flag : String) (v w : Option String) : SameKind (.valued flag v) (.valued flag w)
  | switch (flag : String) (v w : Bool) : SameKind (.switch flag v) (.switch flag w)

theorem SameKind.flag_eq {a b : Choice} (h : SameKind a b) : a.flag = b.flag := by
  cases h <;> rfl

theorem map_flag_eq {xs ys : List Choice} (h : List.Forall₂ SameKind xs ys) :
    xs.map flag = ys.map flag := by
  induction h with
  | nil => rfl
  | cons hab _ ih => rw [List.map_cons, List.map_cons, hab.flag_eq, ih]

/-- What starts the arguments of options is one of the flags. -/
theorem mem_flags_of_head? {options : List Choice} {word : String}
    (h : word ∈ (options.flatMap spelled).head?) : word ∈ options.map flag := by
  induction options with
  | nil => simp at h
  | cons option options ih =>
    rw [List.map_cons, List.mem_cons]
    obtain ⟨_, value⟩ | ⟨_, on⟩ := option
    · cases value with
      | none => exact .inr (ih h)
      | some value => exact .inl (by simpa [spelled, flag, eq_comm] using h)
    · cases on with
      | false => exact .inr (ih h)
      | true => exact .inl (by simpa [spelled, flag, eq_comm] using h)

/-- An option can be cancelled where its flag does not start what follows. -/
theorem spelled_append_inj {a b : Choice} (hkind : SameKind a b) {rest rest' : List String}
    (hrest : a.flag ∉ rest.head?) (hrest' : a.flag ∉ rest'.head?)
    (h : a.spelled ++ rest = b.spelled ++ rest') : a = b ∧ rest = rest' := by
  -- where only one of the two is given, its flag starts what follows the other
  cases hkind with
  | valued flag v w =>
    rcases v with _ | v <;> rcases w with _ | w
    · exact ⟨rfl, h⟩
    · obtain rfl : rest = flag :: w :: rest' := h
      exact absurd rfl hrest
    · obtain rfl : flag :: v :: rest = rest' := h
      exact absurd rfl hrest'
    · simpa [spelled] using h
  | switch flag v w =>
    rcases v with _ | _ <;> rcases w with _ | _
    · exact ⟨rfl, h⟩
    · obtain rfl : rest = flag :: rest' := h
      exact absurd rfl hrest
    · obtain rfl : flag :: rest = rest' := h
      exact absurd rfl hrest'
    · simpa [spelled] using h

/-- **Options of different flags can be read off again** from their arguments. -/
theorem flatMap_spelled_inj {xs ys : List Choice} (hkind : List.Forall₂ SameKind xs ys)
    (hnodup : (xs.map flag).Nodup) (h : xs.flatMap spelled = ys.flatMap spelled) : xs = ys := by
  induction hkind with
  | nil => rfl
  | @cons a b xs ys hab hxs ih =>
    obtain ⟨hfresh, hnodup⟩ := List.nodup_cons.1 hnodup
    rw [List.flatMap_cons, List.flatMap_cons] at h
    obtain ⟨rfl, hrest⟩ := spelled_append_inj hab (fun hhead => hfresh (mem_flags_of_head? hhead))
      (fun hhead => hfresh (map_flag_eq hxs ▸ mem_flags_of_head? hhead)) h
    rw [ih hnodup hrest]

end Choice

/-! ## Values -/

theorem LogLevel.name_inj {a b : LogLevel} : a.name = b.name ↔ a = b := by
  cases a <;> cases b <;> decide

theorem toString_nat_inj {m n : Nat} : toString m = toString n ↔ m = n := by
  refine ⟨fun h => ?_, congrArg toString⟩
  have hdigits : decimal m = decimal n := String.ofList_inj.1 h
  have hread := congrArg readNat? hdigits
  rwa [readNat?_decimal, readNat?_decimal, Option.some.injEq] at hread

namespace Profile

variable {p q : Profile}

theorem colon_notMem_authUser (h : p.validate = .ok ()) : ':' ∉ p.authUser.toList := by
  intro hcolon
  unfold validate at h
  split at h
  · cases h
  · split at h
    · cases h
    · split_ifs at h with hserver huser
      exact huser (List.contains_iff_mem.2 hcolon)

/-- The first colon ends the user name, whatever the password holds. -/
theorem append_colon_inj {u v x y : String} (hu : ':' ∉ u.toList) (hv : ':' ∉ v.toList)
    (h : u ++ ":" ++ x = v ++ ":" ++ y) : u = v ∧ x = y := by
  have hchars : u.toList ++ ':' :: x.toList = v.toList ++ ':' :: y.toList := by
    simpa using congrArg String.toList h
  have hlength : u.toList.length = v.toList.length := by
    simpa [List.idxOf_append_of_notMem hu, List.idxOf_append_of_notMem hv]
      using congrArg (List.idxOf ':') hchars
  obtain ⟨huser, hrest⟩ := List.append_inj hchars hlength
  exact ⟨String.toList_inj.1 huser, String.toList_inj.1 (List.cons.inj hrest).2⟩

theorem auth_of_ne (h : p.auth ≠ "") : p.auth = p.authUser ++ ":" ++ p.authPass :=
  if_neg fun hempty => h (if_pos hempty)

/-- Where the user name and the password are handed over they can be told apart. -/
theorem auth_eq_iff (hp : p.validate = .ok ()) (hq : q.validate = .ok ()) :
    p.auth = q.auth ↔
      p.auth = "" ∧ q.auth = "" ∨ p.authUser = q.authUser ∧ p.authPass = q.authPass := by
  constructor
  · intro h
    rcases eq_or_ne p.auth "" with hempty | hgiven
    · exact .inl ⟨hempty, h ▸ hempty⟩
    · have hgiven' : q.auth ≠ "" := h ▸ hgiven
      rw [auth_of_ne hgiven, auth_of_ne hgiven'] at h
      exact .inr (append_colon_inj (colon_notMem_authUser hp) (colon_notMem_authUser hq) h)
  · rintro (⟨hp, hq⟩ | ⟨huser, hpass⟩)
    · rw [hp, hq]
    · rw [auth, auth, huser, hpass]

-- A colon in the user name is what `validate` refuses.
example : { new "h:1" with authUser := "a:b", authPass := "c" }.auth =
    { new "h:1" with authUser := "a", authPass := "b:c" }.auth := by decide

end Profile

/-! ## Sessions -/

/-- The value of an option, which is not given where it is empty. -/
def given? (value : String) : Option String := if value = "" then none else some value

theorem given?_inj {v w : String} : given? v = given? w ↔ v = w := by
  constructor
  · intro h
    unfold given? at h
    split_ifs at h with hv hw
    · rw [hv, hw]
    · exact Option.some.inj h
  · exact congrArg given?

theorem spelled_given? (flag value : String) :
    (Choice.valued flag (given? value)).spelled = optionalFlag flag value := by
  unfold given? optionalFlag
  split_ifs <;> rfl

namespace StartParams

/-- The options of a session, with the path of its route list if it has one. -/
def choices (p : StartParams) (routeList : Option String) : List Choice :=
  [.valued "-up" p.server, .valued "-l" p.localAddr, .valued "-k" p.key,
    .valued "-lv" p.logLevel.name, .valued "-dns-cache" (toString p.dnsCacheSize.toNat),
    .valued "-udp" (toString p.udpPort.toNat), .valued "-udp-tcp" (toString p.udpTcpFactor.toNat),
    .valued "-a" (given? p.auth), .switch "-partial" p.isPartial,
    .valued "-domain" (given? p.domain), .valued "-china-list" routeList]

theorem nodup_flags_choices (p : StartParams) (routeList : Option String) :
    ((p.choices routeList).map Choice.flag).Nodup := by
  simp [choices, Choice.flag]

theorem choices_sameKind (p q : StartParams) (r s : Option String) :
    List.Forall₂ Choice.SameKind (p.choices r) (q.choices s) := by
  unfold choices
  repeat' constructor

theorem flatMap_spelled_choices_inj {p q : StartParams} {r s : Option String} :
    (p.choices r).flatMap Choice.spelled = (q.choices s).flatMap Choice.spelled ↔
      p.choices r = q.choices s :=
  ⟨Choice.flatMap_spelled_inj (choices_sameKind p q r s) (nodup_flags_choices p r),
    congrArg (List.flatMap Choice.spelled)⟩

end StartParams

namespace ProgramConfig

theorem arguments_eq (c : ProgramConfig) (p : StartParams) (routeList : Option String) :
    c.arguments p routeList = (p.choices routeList).flatMap Choice.spelled ++ c.extraArgs := by
  simp only [arguments, StartParams.choices, ← spelled_given?]
  cases p.isPartial <;> cases routeList <;> simp [Choice.spelled]

/-- The route list can be written among the files of a session, if there is one. -/
def CanWriteRouteList (c : ProgramConfig) (content : String) (d : Disk) : Prop :=
  content ≠ "" → (d.createDirs c.workDir).1 = .ok () ∧
    ((d.createDirs c.workDir).2.write (c.workDir.join routeListName) content.toUTF8).1 = .ok ()

theorem CanWriteRouteList.path_eq {c : ProgramConfig} {content : String} {d : Disk}
    (h : c.CanWriteRouteList content d) : (c.writeRouteList content d).1 =
      if content = "" then none else some (c.workDir.join routeListName).shown := by
  unfold writeRouteList
  split_ifs with hempty
  · rfl
  · obtain ⟨hdirs, hwrite⟩ := h hempty
    split
    · next hd =>
      rw [hd] at hdirs
      cases hdirs
    · next hd =>
      rw [hd] at hwrite
      split
      · next hw =>
        rw [hw] at hwrite
        cases hwrite
      · rfl

/-- The arguments that a program is started with on a disk. -/
def handed (c : ProgramConfig) (p : StartParams) (d : Disk) : List String :=
  c.arguments p (c.writeRouteList p.routeList d).1

end ProgramConfig

/-- A start call leaves the child process as it was, or starts one with what is handed over. -/
theorem ChildEngine.child_start (e : ChildEngine) (p : StartParams) (d : Disk) :
    (e.start p d).2.1.child = e.child ∨
      ∃ plan, e.planOf (e.config.writeRouteList p.routeList d).2.tree (e.config.handed p d) =
          .ok plan ∧ (e.start p d).2.1.child = .ofPlan plan e.now := by
  unfold start
  split
  · exact .inl rfl
  · dsimp only
    split
    · exact .inl rfl
    · next plan hplan =>
      obtain ⟨_, -, hplan⟩ := exists_of_bind_eq_ok hplan
      exact .inr ⟨plan, hplan, rfl⟩

/-- What a session is started for. -/
structure Assignment where
  profile : Profile
  logLevel : LogLevel
  dnsCacheSize : UInt32
  /-- The content of the route list. -/
  routeList : String

namespace Assignment

/-- The parameters of the start call. -/
def params (a : Assignment) : StartParams :=
  .ofProfile a.profile a.logLevel a.dnsCacheSize a.routeList

/-- Assignments between which a command line makes no difference. They may differ in what the route
list says, and in a user name without a password or a password without a user name. -/
structure Agree (a b : Assignment) : Prop where
  server : a.profile.serverAddr = b.profile.serverAddr
  localAddr : a.profile.localAddr = b.profile.localAddr
  key : a.profile.key = b.profile.key
  logLevel : a.logLevel = b.logLevel
  dnsCacheSize : a.dnsCacheSize = b.dnsCacheSize
  udpPort : a.profile.udpPort = b.profile.udpPort
  udpTcpFactor : a.profile.udpTcpFactor = b.profile.udpTcpFactor
  auth : a.profile.auth = "" ∧ b.profile.auth = "" ∨
    a.profile.authUser = b.profile.authUser ∧ a.profile.authPass = b.profile.authPass
  isPartial : a.profile.isPartial = b.profile.isPartial
  domain : a.profile.domain = b.profile.domain
  routeList : a.routeList = "" ↔ b.routeList = ""

end Assignment

/-- **The command line is unambiguous**: programs with the same directory and the same further
arguments are started with equal arguments exactly for assignments that agree. -/
theorem ProgramConfig.handed_eq_iff {c c' : ProgramConfig} (hdir : c.workDir = c'.workDir)
    (hextra : c.extraArgs = c'.extraArgs) {a b : Assignment}
    (ha : a.profile.validate = .ok ()) (hb : b.profile.validate = .ok ()) {d d' : Disk}
    (hd : c.CanWriteRouteList a.routeList d) (hd' : c'.CanWriteRouteList b.routeList d') :
    c.handed a.params d = c'.handed b.params d' ↔ a.Agree b := by
  rw [handed, handed, arguments_eq, arguments_eq, hextra, List.append_cancel_right_eq]
  have hroute : (c.writeRouteList a.routeList d).1 = (c'.writeRouteList b.routeList d').1 ↔
      (a.routeList = "" ↔ b.routeList = "") := by
    rw [hd.path_eq, hd'.path_eq, hdir]
    split_ifs <;> simp [*]
  change (a.params.choices (c.writeRouteList a.routeList d).1).flatMap Choice.spelled =
    (b.params.choices (c'.writeRouteList b.routeList d').1).flatMap Choice.spelled ↔ _
  rw [StartParams.flatMap_spelled_choices_inj]
  simp only [StartParams.choices, Assignment.params, StartParams.ofProfile, List.cons.injEq,
    Choice.valued.injEq, Choice.switch.injEq, Option.some.injEq, true_and, and_true,
    LogLevel.name_inj, toString_nat_inj, UInt32.toNat_inj, UInt16.toNat_inj, given?_inj, hroute,
    Profile.auth_eq_iff ha hb]
  constructor
  · rintro ⟨server, localAddr, key, logLevel, dnsCacheSize, udpPort, udpTcpFactor, auth, isPartial,
      domain, routeList⟩
    exact { server, localAddr, key, logLevel, dnsCacheSize, udpPort, udpTcpFactor, auth, isPartial,
            domain, routeList }
  · intro h
    exact ⟨h.server, h.localAddr, h.key, h.logLevel, h.dnsCacheSize, h.udpPort, h.udpTcpFactor,
      h.auth, h.isPartial, h.domain, h.routeList⟩

/-- A program whose further arguments look like options of a session. -/
def flagProgram : ProgramConfig := ⟨"/bin/engine", ⟨"w", []⟩, ["-partial", "-a"]⟩

/-- An assignment whose values look like flags. -/
def flagAssignment : Assignment where
  profile := { Profile.new "h:1" with key := "-a", authUser := "-domain", domain := "-partial" }
  logLevel := .log
  dnsCacheSize := 0
  routeList := "a"

/-- An assignment with another route list, and with a password where the other has a user name. -/
def flagTwin : Assignment :=
  { flagAssignment with
    profile := { flagAssignment.profile with authUser := "", authPass := "p:q" }
    routeList := "b" }

theorem ProgramConfig.handed_eq_iff_flagTwin :
    flagAssignment.profile.validate = .ok () ∧ flagTwin.profile.validate = .ok () ∧
      flagProgram.CanWriteRouteList flagAssignment.routeList (.ofTree .empty) ∧
      flagProgram.CanWriteRouteList flagTwin.routeList (.ofTree .empty) ∧
      flagProgram.handed flagAssignment.params (.ofTree .empty) =
        flagProgram.handed flagTwin.params (.ofTree .empty) := by
  have ha : flagAssignment.profile.validate = .ok () := by rfl
  have hb : flagTwin.profile.validate = .ok () := by rfl
  have hd : flagProgram.CanWriteRouteList flagAssignment.routeList (.ofTree .empty) :=
    fun _ => ⟨eq_ok_of_toOption (by decide +kernel), eq_ok_of_toOption (by decide +kernel)⟩
  have hd' : flagProgram.CanWriteRouteList flagTwin.routeList (.ofTree .empty) :=
    fun _ => ⟨eq_ok_of_toOption (by decide +kernel), eq_ok_of_toOption (by decide +kernel)⟩
  refine ⟨ha, hb, hd, hd', (handed_eq_iff rfl rfl ha hb hd hd').2 ?_⟩
  constructor <;> decide

end ProxyControl
