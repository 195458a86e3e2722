import TaskRunner.Shell.State

/-!
# The options of a shell

Options have names, and some of them letters; the extended language has further options that have only names.
-/

namespace TaskRunner.Shell.Options

/-- The options that have letters. -/
def lettered : Dialect → List (Char × String)
  | .plain =>
    [('e', "errexit"), ('f', "noglob"), ('I', "ignoreeof"), ('i', "interactive"), ('m', "monitor"), ('n', "noexec"),
      ('s', "stdin"), ('x', "xtrace"), ('v', "verbose"), ('V', "vi"), ('E', "emacs"), ('C', "noclobber"),
      ('a', "allexport"), ('b', "notify"), ('u', "nounset")]
  | .extended =>
    [('a', "allexport"), ('b', "notify"), ('e', "errexit"), ('f', "noglob"), ('h', "hashall"), ('k', "keyword"),
      ('m', "monitor"), ('n', "noexec"), ('p', "privileged"), ('t', "onecmd"), ('u', "nounset"), ('v', "verbose"),
      ('x', "xtrace"), ('B', "braceexpand"), ('C', "noclobber"), ('E', "errtrace"), ('H', "histexpand"),
      ('P', "physical"), ('T', "functrace")]

/-- The names of all options, in the order in which they are listed. -/
def names : Dialect → List String
  | .plain => (lettered .plain).map Prod.snd ++ ["nolog", "debug"]
  | .extended =>
    ["allexport", "braceexpand", "emacs", "errexit", "errtrace", "functrace", "hashall", "histexpand", "history",
      "ignoreeof", "interactive-comments", "keyword", "monitor", "noclobber", "noexec", "noglob", "nolog", "notify",
      "nounset", "onecmd", "physical", "pipefail", "posix", "privileged", "verbose", "vi", "xtrace"]

/-- The further options of the extended language, with whether they are usually on. -/
def further : List (String × Bool) :=
  [("autocd", false), ("assoc_expand_once", false), ("cdable_vars", false), ("cdspell", false), ("checkhash", false), ("checkjobs", false), ("checkwinsize", true),
    ("cmdhist", true), ("compat31", false), ("compat32", false), ("compat40", false), ("compat41", false),
    ("compat42", false), ("compat43", false), ("compat44", false), ("complete_fullquote", true), ("direxpand", false),
    ("dirspell", false), ("dotglob", false), ("execfail", false), ("expand_aliases", false), ("extdebug", false),
    ("extglob", false), ("extquote", true), ("failglob", false), ("force_fignore", true), ("globasciiranges", true),
    ("globskipdots", true), ("globstar", false), ("gnu_errfmt", false), ("histappend", false), ("histreedit", false),
    ("histverify", false), ("hostcomplete", true), ("huponexit", false), ("inherit_errexit", false),
    ("interactive_comments", true), ("lastpipe", false), ("lithist", false), ("localvar_inherit", false),
    ("localvar_unset", false), ("login_shell", false), ("mailwarn", false), ("no_empty_cmd_completion", false),
    ("nocaseglob", false), ("nocasematch", false), ("noexpand_translation", false), ("nullglob", false),
    ("patsub_replacement", true), ("progcomp", true), ("progcomp_alias", false), ("promptvars", true),
    ("restricted_shell", false), ("shift_verbose", false), ("sourcepath", true), ("varredir_close", false),
    ("xpg_echo", false)]

/-- Whether a further option is on. Of those that are usually on it is kept that they are off. -/
def holds (s : State) (name : String) (usual : Bool) : Bool := if usual then !Sh.isOn s ("no:" ++ name) else Sh.isOn s name

/-- The options that are on once those that have entries in the list of all are as they were. -/
def back (s : State) (kept : List String) : List String :=
  let listed := names s.dialect
  kept.filter (fun name => listed.contains name) ++ s.options.filter fun name => !listed.contains name

/-- The names of the options that are on. -/
def shown (s : State) : String := ":".intercalate ((names s.dialect).filter (Sh.isOn s))

/-- The names of the further options that are on. -/
def furtherShown (s : State) : String :=
  ":".intercalate ((further.filter fun (name, usual) => holds s name usual).map Prod.fst)

end TaskRunner.Shell.Options
