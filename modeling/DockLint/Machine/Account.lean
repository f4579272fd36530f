/-!
# Accounts

The users that every machine knows.
-/

namespace DockLint.Machine

structure Account where
  name : String
  user : Nat
  group : Nat
  title : String
  home : String
  shell : String
  deriving DecidableEq, Repr

namespace Account

def noLogin : String := "/usr/sbin/nologin"

def all : List Account :=
  [⟨"root", 0, 0, "root", "/root", "/bin/bash"⟩, ⟨"daemon", 1, 1, "daemon", "/usr/sbin", noLogin⟩,
    ⟨"bin", 2, 2, "bin", "/bin", noLogin⟩, ⟨"sys", 3, 3, "sys", "/dev", noLogin⟩,
    ⟨"sync", 4, 65534, "sync", "/bin", "/bin/sync"⟩,
    ⟨"games", 5, 60, "games", "/usr/games", noLogin⟩,
    ⟨"man", 6, 12, "man", "/var/cache/man", noLogin⟩, ⟨"lp", 7, 7, "lp", "/var/spool/lpd", noLogin⟩,
    ⟨"mail", 8, 8, "mail", "/var/mail", noLogin⟩,
    ⟨"news", 9, 9, "news", "/var/spool/news", noLogin⟩,
    ⟨"uucp", 10, 10, "uucp", "/var/spool/uucp", noLogin⟩,
    ⟨"proxy", 13, 13, "proxy", "/bin", noLogin⟩,
    ⟨"www-data", 33, 33, "www-data", "/var/www", noLogin⟩,
    ⟨"backup", 34, 34, "backup", "/var/backups", noLogin⟩,
    ⟨"list", 38, 38, "Mailing List Manager", "/var/list", noLogin⟩,
    ⟨"irc", 39, 39, "ircd", "/run/ircd", noLogin⟩, ⟨"_apt", 42, 65534, "", "/nonexistent", noLogin⟩,
    ⟨"nobody", 65534, 65534, "nobody", "/nonexistent", noLogin⟩]

/-- The account of the user with a name. -/
def ofName? (name : String) : Option Account :=
  all.find? (·.name == name)

/-- The account as a line of the file that lists them. -/
def line (a : Account) : String :=
  String.intercalate ":"
    [a.name, "x", toString a.user, toString a.group, a.title, a.home, a.shell] ++ "\n"

end Account

end DockLint.Machine
