import PlaybookRepair.Text.Basic

/-!
# Keywords and modules

The words that tell what a key means: keywords of tasks and of plays, the keywords whose value is a
list of tasks, and the modules that a task can run. A keyword may be valid on both plays and tasks.
The name of a module may be qualified by its collection, which is written before it with a full
stop.
-/

namespace PlaybookRepair.Catalog

/-- Keywords that are valid on a task. -/
def taskKeywords : List Text := [
  "register", "when", "become", "vars", "with_items", "loop", "notify", "tags", "ignore_errors",
  "become_user", "changed_when", "failed_when", "until", "retries", "delay", "delegate_to",
  "run_once", "no_log", "environment", "args", "loop_control", "with_dict", "with_fileglob",
  "with_together", "with_nested", "with_sequence", "with_subelements", "async", "poll",
  "check_mode", "listen", "block", "rescue", "always"].map String.toList

/-- Keywords that are valid on a play. -/
def playKeywords : List Text := [
  "gather_facts", "become", "vars", "tasks", "roles", "handlers", "pre_tasks", "post_tasks",
  "hosts", "vars_files", "vars_prompt", "remote_user", "serial", "connection", "strategy",
  "any_errors_fatal", "max_fail_percentage", "collections", "module_defaults", "become_user",
  "environment", "tags", "force_handlers"].map String.toList

/-- Keywords of a play whose value is a list of tasks. -/
def taskSections : List Text :=
  ["tasks", "handlers", "pre_tasks", "post_tasks"].map String.toList

/-- Modules that run a command line or a script. -/
def shellModules : List Text :=
  ["shell", "command", "raw", "win_shell", "win_command"].map String.toList

/-- Modules that a task can run. -/
def modules : List Text := [
  "yum", "dnf", "apt", "package", "pip", "service", "systemd", "copy", "template", "file",
  "lineinfile", "blockinfile", "replace", "command", "shell", "script", "raw", "debug", "ping",
  "set_fact", "assert", "fail", "pause", "stat", "setup", "reboot", "group_by", "add_host",
  "wait_for", "wait_for_connection", "uri", "get_url", "git", "unarchive", "archive",
  "synchronize", "fetch", "mount", "user", "group", "cron", "at", "mail", "sysctl", "firewalld",
  "selinux", "seboolean", "include", "include_vars", "include_tasks", "import_tasks",
  "include_role", "import_role", "import_playbook", "meta", "win_updates", "win_reboot",
  "win_service", "win_feature", "win_package", "win_chocolatey", "win_command", "win_shell",
  "win_copy", "win_file", "redhat_subscription", "rhsm_repository", "yum_repository",
  "package_facts", "service_facts"].map String.toList

/-- Where a keyword is valid. -/
inductive KeywordScope
  | task
  | play
  /-- On plays and on tasks; the surroundings decide. -/
  | shared
deriving Repr, DecidableEq

/-- Where a key is a keyword, if it is one anywhere. -/
def keywordScope? (key : Text) : Option KeywordScope :=
  match taskKeywords.contains key, playKeywords.contains key with
  | true, true => some .shared
  | true, false => some .task
  | false, true => some .play
  | false, false => none

/-- Whether a key is a keyword whose value is a list of tasks. -/
def isTaskSection (key : Text) : Bool := taskSections.contains key

/-- The name of a module without its collection. -/
def moduleName (key : Text) : Text := Text.afterLast '.' key

/-- Whether a key names a module. -/
def isModule (key : Text) : Bool := modules.contains (moduleName key)

/-- Whether a key names a module that runs a command line or a script. -/
def isShellModule (key : Text) : Bool := shellModules.contains (moduleName key)

end PlaybookRepair.Catalog
