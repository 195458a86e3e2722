/-!
# Signals

The signals that can end a child process, by number.
-/

namespace TaskRunner.Signal

/-- The signals with a name, the first of them number one. -/
def names : List String :=
  ["SIGHUP", "SIGINT", "SIGQUIT", "SIGILL", "SIGTRAP", "SIGABRT", "SIGBUS", "SIGFPE", "SIGKILL", "SIGUSR1",
    "SIGSEGV", "SIGUSR2", "SIGPIPE", "SIGALRM", "SIGTERM", "SIGSTKFLT", "SIGCHLD", "SIGCONT", "SIGSTOP", "SIGTSTP",
    "SIGTTIN", "SIGTTOU", "SIGURG", "SIGXCPU", "SIGXFSZ", "SIGVTALRM", "SIGPROF", "SIGWINCH", "SIGIO", "SIGPWR",
    "SIGSYS"]

/-- The name of a signal; of the real-time signals only the first and the last have one. -/
def name? (n : Nat) : Option String :=
  if n = 34 then some "SIGRTMIN"
  else if n = 64 then some "SIGRTMAX"
  else if n = 0 then none
  else names[n - 1]?

end TaskRunner.Signal
