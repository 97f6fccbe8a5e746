import Litrace.Lib.Loop
import Litrace.Lib.Strconv
import Mathlib.Data.List.Nodup

/-!
# Names of syscalls

`x86_64.go`: the table of syscalls and the name a trace prints for a syscall id.

The table is a list of entries, and the two maps of the Go file are searches in
it.  What the output needs is that different ids have different names, also where
one of them is not in the table and is printed as a number (`name_injective`).
The names are compared by a code of each, so that the kernel compares numbers
and not texts.
-/

namespace Litrace.Syscalls

open GoString (ascii)

/-- `Entry`. -/
structure Entry where
  id : Int64
  name : GoString

/-- `entries`. -/
def entries : List Entry := [
  ⟨0, ascii "read"⟩, ⟨1, ascii "write"⟩, ⟨2, ascii "open"⟩, ⟨3, ascii "close"⟩, ⟨4, ascii "stat"⟩,
  ⟨5, ascii "fstat"⟩, ⟨6, ascii "lstat"⟩, ⟨7, ascii "poll"⟩, ⟨8, ascii "lseek"⟩,
  ⟨9, ascii "mmap"⟩, ⟨10, ascii "mprotect"⟩, ⟨11, ascii "munmap"⟩, ⟨12, ascii "brk"⟩,
  ⟨13, ascii "rt_sigaction"⟩, ⟨14, ascii "rt_sigprocmask"⟩, ⟨15, ascii "rt_sigreturn"⟩,
  ⟨16, ascii "ioctl"⟩, ⟨17, ascii "pread64"⟩, ⟨18, ascii "pwrite64"⟩, ⟨19, ascii "readv"⟩,
  ⟨20, ascii "writev"⟩, ⟨21, ascii "access"⟩, ⟨22, ascii "pipe"⟩, ⟨23, ascii "select"⟩,
  ⟨24, ascii "sched_yield"⟩, ⟨25, ascii "mremap"⟩, ⟨26, ascii "msync"⟩, ⟨27, ascii "mincore"⟩,
  ⟨28, ascii "madvise"⟩, ⟨29, ascii "shmget"⟩, ⟨30, ascii "shmat"⟩, ⟨31, ascii "shmctl"⟩,
  ⟨32, ascii "dup"⟩, ⟨33, ascii "dup2"⟩, ⟨34, ascii "pause"⟩, ⟨35, ascii "nanosleep"⟩,
  ⟨36, ascii "getitimer"⟩, ⟨37, ascii "alarm"⟩, ⟨38, ascii "setitimer"⟩, ⟨39, ascii "getpid"⟩,
  ⟨40, ascii "sendfile"⟩, ⟨41, ascii "socket"⟩, ⟨42, ascii "connect"⟩, ⟨43, ascii "accept"⟩,
  ⟨44, ascii "sendto"⟩, ⟨45, ascii "recvfrom"⟩, ⟨46, ascii "sendmsg"⟩, ⟨47, ascii "recvmsg"⟩,
  ⟨48, ascii "shutdown"⟩, ⟨49, ascii "bind"⟩, ⟨50, ascii "listen"⟩, ⟨51, ascii "getsockname"⟩,
  ⟨52, ascii "getpeername"⟩, ⟨53, ascii "socketpair"⟩, ⟨54, ascii "setsockopt"⟩,
  ⟨55, ascii "getsockopt"⟩, ⟨56, ascii "clone"⟩, ⟨57, ascii "fork"⟩, ⟨58, ascii "vfork"⟩,
  ⟨59, ascii "execve"⟩, ⟨60, ascii "exit"⟩, ⟨61, ascii "wait4"⟩, ⟨62, ascii "kill"⟩,
  ⟨63, ascii "uname"⟩, ⟨64, ascii "semget"⟩, ⟨65, ascii "semop"⟩, ⟨66, ascii "semctl"⟩,
  ⟨67, ascii "shmdt"⟩, ⟨68, ascii "msgget"⟩, ⟨69, ascii "msgsnd"⟩, ⟨70, ascii "msgrcv"⟩,
  ⟨71, ascii "msgctl"⟩, ⟨72, ascii "fcntl"⟩, ⟨73, ascii "flock"⟩, ⟨74, ascii "fsync"⟩,
  ⟨75, ascii "fdatasync"⟩, ⟨76, ascii "truncate"⟩, ⟨77, ascii "ftruncate"⟩,
  ⟨78, ascii "getdents"⟩, ⟨79, ascii "getcwd"⟩, ⟨80, ascii "chdir"⟩, ⟨81, ascii "fchdir"⟩,
  ⟨82, ascii "rename"⟩, ⟨83, ascii "mkdir"⟩, ⟨84, ascii "rmdir"⟩, ⟨85, ascii "creat"⟩,
  ⟨86, ascii "link"⟩, ⟨87, ascii "unlink"⟩, ⟨88, ascii "symlink"⟩, ⟨89, ascii "readlink"⟩,
  ⟨90, ascii "chmod"⟩, ⟨91, ascii "fchmod"⟩, ⟨92, ascii "chown"⟩, ⟨93, ascii "fchown"⟩,
  ⟨94, ascii "lchown"⟩, ⟨95, ascii "umask"⟩, ⟨96, ascii "gettimeofday"⟩, ⟨97, ascii "getrlimit"⟩,
  ⟨98, ascii "getrusage"⟩, ⟨99, ascii "sysinfo"⟩, ⟨100, ascii "times"⟩, ⟨101, ascii "ptrace"⟩,
  ⟨102, ascii "getuid"⟩, ⟨103, ascii "syslog"⟩, ⟨104, ascii "getgid"⟩, ⟨105, ascii "setuid"⟩,
  ⟨106, ascii "setgid"⟩, ⟨107, ascii "geteuid"⟩, ⟨108, ascii "getegid"⟩, ⟨109, ascii "setpgid"⟩,
  ⟨110, ascii "getppid"⟩, ⟨111, ascii "getpgrp"⟩, ⟨112, ascii "setsid"⟩, ⟨113, ascii "setreuid"⟩,
  ⟨114, ascii "setregid"⟩, ⟨115, ascii "getgroups"⟩, ⟨116, ascii "setgroups"⟩,
  ⟨117, ascii "setresuid"⟩, ⟨118, ascii "getresuid"⟩, ⟨119, ascii "setresgid"⟩,
  ⟨120, ascii "getresgid"⟩, ⟨121, ascii "getpgid"⟩, ⟨122, ascii "setfsuid"⟩,
  ⟨123, ascii "setfsgid"⟩, ⟨124, ascii "getsid"⟩, ⟨125, ascii "capget"⟩, ⟨126, ascii "capset"⟩,
  ⟨127, ascii "rt_sigpending"⟩, ⟨128, ascii "rt_sigtimedwait"⟩, ⟨129, ascii "rt_sigqueueinfo"⟩,
  ⟨130, ascii "rt_sigsuspend"⟩, ⟨131, ascii "sigaltstack"⟩, ⟨132, ascii "utime"⟩,
  ⟨133, ascii "mknod"⟩, ⟨134, ascii "uselib"⟩, ⟨135, ascii "personality"⟩, ⟨136, ascii "ustat"⟩,
  ⟨137, ascii "statfs"⟩, ⟨138, ascii "fstatfs"⟩, ⟨139, ascii "sysfs"⟩, ⟨140, ascii "getpriority"⟩,
  ⟨141, ascii "setpriority"⟩, ⟨142, ascii "sched_setparam"⟩, ⟨143, ascii "sched_getparam"⟩,
  ⟨144, ascii "sched_setscheduler"⟩, ⟨145, ascii "sched_getscheduler"⟩,
  ⟨146, ascii "sched_get_priority_max"⟩, ⟨147, ascii "sched_get_priority_min"⟩,
  ⟨148, ascii "sched_rr_get_interval"⟩, ⟨149, ascii "mlock"⟩, ⟨150, ascii "munlock"⟩,
  ⟨151, ascii "mlockall"⟩, ⟨152, ascii "munlockall"⟩, ⟨153, ascii "vhangup"⟩,
  ⟨154, ascii "modify_ldt"⟩, ⟨155, ascii "pivot_root"⟩, ⟨156, ascii "_sysctl"⟩,
  ⟨157, ascii "prctl"⟩, ⟨158, ascii "arch_prctl"⟩, ⟨159, ascii "adjtimex"⟩,
  ⟨160, ascii "setrlimit"⟩, ⟨161, ascii "chroot"⟩, ⟨162, ascii "sync"⟩, ⟨163, ascii "acct"⟩,
  ⟨164, ascii "settimeofday"⟩, ⟨165, ascii "mount"⟩, ⟨166, ascii "umount2"⟩,
  ⟨167, ascii "swapon"⟩, ⟨168, ascii "swapoff"⟩, ⟨169, ascii "reboot"⟩,
  ⟨170, ascii "sethostname"⟩, ⟨171, ascii "setdomainname"⟩, ⟨172, ascii "iopl"⟩,
  ⟨173, ascii "ioperm"⟩, ⟨174, ascii "create_module"⟩, ⟨175, ascii "init_module"⟩,
  ⟨176, ascii "delete_module"⟩, ⟨177, ascii "get_kernel_syms"⟩, ⟨178, ascii "query_module"⟩,
  ⟨179, ascii "quotactl"⟩, ⟨180, ascii "nfsservctl"⟩, ⟨181, ascii "getpmsg"⟩,
  ⟨182, ascii "putpmsg"⟩, ⟨183, ascii "afs_syscall"⟩, ⟨184, ascii "tuxcall"⟩,
  ⟨185, ascii "security"⟩, ⟨186, ascii "gettid"⟩, ⟨187, ascii "readahead"⟩,
  ⟨188, ascii "setxattr"⟩, ⟨189, ascii "lsetxattr"⟩, ⟨190, ascii "fsetxattr"⟩,
  ⟨191, ascii "getxattr"⟩, ⟨192, ascii "lgetxattr"⟩, ⟨193, ascii "fgetxattr"⟩,
  ⟨194, ascii "listxattr"⟩, ⟨195, ascii "llistxattr"⟩, ⟨196, ascii "flistxattr"⟩,
  ⟨197, ascii "removexattr"⟩, ⟨198, ascii "lremovexattr"⟩, ⟨199, ascii "fremovexattr"⟩,
  ⟨200, ascii "tkill"⟩, ⟨201, ascii "time"⟩, ⟨202, ascii "futex"⟩,
  ⟨203, ascii "sched_setaffinity"⟩, ⟨204, ascii "sched_getaffinity"⟩,
  ⟨205, ascii "set_thread_area"⟩, ⟨206, ascii "io_setup"⟩, ⟨207, ascii "io_destroy"⟩,
  ⟨208, ascii "io_getevents"⟩, ⟨209, ascii "io_submit"⟩, ⟨210, ascii "io_cancel"⟩,
  ⟨211, ascii "get_thread_area"⟩, ⟨212, ascii "lookup_dcookie"⟩, ⟨213, ascii "epoll_create"⟩,
  ⟨214, ascii "epoll_ctl_old"⟩, ⟨215, ascii "epoll_wait_old"⟩, ⟨216, ascii "remap_file_pages"⟩,
  ⟨217, ascii "getdents64"⟩, ⟨218, ascii "set_tid_address"⟩, ⟨219, ascii "restart_syscall"⟩,
  ⟨220, ascii "semtimedop"⟩, ⟨221, ascii "fadvise64"⟩, ⟨222, ascii "timer_create"⟩,
  ⟨223, ascii "timer_settime"⟩, ⟨224, ascii "timer_gettime"⟩, ⟨225, ascii "timer_getoverrun"⟩,
  ⟨226, ascii "timer_delete"⟩, ⟨227, ascii "clock_settime"⟩, ⟨228, ascii "clock_gettime"⟩,
  ⟨229, ascii "clock_getres"⟩, ⟨230, ascii "clock_nanosleep"⟩, ⟨231, ascii "exit_group"⟩,
  ⟨232, ascii "epoll_wait"⟩, ⟨233, ascii "epoll_ctl"⟩, ⟨234, ascii "tgkill"⟩,
  ⟨235, ascii "utimes"⟩, ⟨236, ascii "vserver"⟩, ⟨237, ascii "mbind"⟩,
  ⟨238, ascii "set_mempolicy"⟩, ⟨239, ascii "get_mempolicy"⟩, ⟨240, ascii "mq_open"⟩,
  ⟨241, ascii "mq_unlink"⟩, ⟨242, ascii "mq_timedsend"⟩, ⟨243, ascii "mq_timedreceive"⟩,
  ⟨244, ascii "mq_notify"⟩, ⟨245, ascii "mq_getsetattr"⟩, ⟨246, ascii "kexec_load"⟩,
  ⟨247, ascii "waitid"⟩, ⟨248, ascii "add_key"⟩, ⟨249, ascii "request_key"⟩,
  ⟨250, ascii "keyctl"⟩, ⟨251, ascii "ioprio_set"⟩, ⟨252, ascii "ioprio_get"⟩,
  ⟨253, ascii "inotify_init"⟩, ⟨254, ascii "inotify_add_watch"⟩, ⟨255, ascii "inotify_rm_watch"⟩,
  ⟨256, ascii "migrate_pages"⟩, ⟨257, ascii "openat"⟩, ⟨258, ascii "mkdirat"⟩,
  ⟨259, ascii "mknodat"⟩, ⟨260, ascii "fchownat"⟩, ⟨261, ascii "futimesat"⟩,
  ⟨262, ascii "newfstatat"⟩, ⟨263, ascii "unlinkat"⟩, ⟨264, ascii "renameat"⟩,
  ⟨265, ascii "linkat"⟩, ⟨266, ascii "symlinkat"⟩, ⟨267, ascii "readlinkat"⟩,
  ⟨268, ascii "fchmodat"⟩, ⟨269, ascii "faccessat"⟩, ⟨270, ascii "pselect6"⟩,
  ⟨271, ascii "ppoll"⟩, ⟨272, ascii "unshare"⟩, ⟨273, ascii "set_robust_list"⟩,
  ⟨274, ascii "get_robust_list"⟩, ⟨275, ascii "splice"⟩, ⟨276, ascii "tee"⟩,
  ⟨277, ascii "sync_file_range"⟩, ⟨278, ascii "vmsplice"⟩, ⟨279, ascii "move_pages"⟩,
  ⟨280, ascii "utimensat"⟩, ⟨281, ascii "epoll_pwait"⟩, ⟨282, ascii "signalfd"⟩,
  ⟨283, ascii "timerfd_create"⟩, ⟨284, ascii "eventfd"⟩, ⟨285, ascii "fallocate"⟩,
  ⟨286, ascii "timerfd_settime"⟩, ⟨287, ascii "timerfd_gettime"⟩, ⟨288, ascii "accept4"⟩,
  ⟨289, ascii "signalfd4"⟩, ⟨290, ascii "eventfd2"⟩, ⟨291, ascii "epoll_create1"⟩,
  ⟨292, ascii "dup3"⟩, ⟨293, ascii "pipe2"⟩, ⟨294, ascii "inotify_init1"⟩, ⟨295, ascii "preadv"⟩,
  ⟨296, ascii "pwritev"⟩, ⟨297, ascii "rt_tgsigqueueinfo"⟩, ⟨298, ascii "perf_event_open"⟩,
  ⟨299, ascii "recvmmsg"⟩, ⟨300, ascii "fanotify_init"⟩, ⟨301, ascii "fanotify_mark"⟩,
  ⟨302, ascii "prlimit64"⟩, ⟨303, ascii "name_to_handle_at"⟩, ⟨304, ascii "open_by_handle_at"⟩,
  ⟨305, ascii "clock_adjtime"⟩, ⟨306, ascii "syncfs"⟩, ⟨307, ascii "sendmmsg"⟩,
  ⟨308, ascii "setns"⟩, ⟨309, ascii "getcpu"⟩, ⟨310, ascii "process_vm_readv"⟩,
  ⟨311, ascii "process_vm_writev"⟩, ⟨312, ascii "kcmp"⟩, ⟨313, ascii "finit_module"⟩,
  ⟨314, ascii "sched_setattr"⟩, ⟨315, ascii "sched_getattr"⟩, ⟨316, ascii "renameat2"⟩,
  ⟨317, ascii "seccomp"⟩, ⟨318, ascii "getrandom"⟩, ⟨319, ascii "memfd_create"⟩,
  ⟨320, ascii "kexec_file_load"⟩, ⟨321, ascii "bpf"⟩, ⟨322, ascii "execveat"⟩,
  ⟨323, ascii "userfaultfd"⟩, ⟨324, ascii "membarrier"⟩, ⟨325, ascii "mlock2"⟩,
  ⟨326, ascii "copy_file_range"⟩, ⟨327, ascii "preadv2"⟩, ⟨328, ascii "pwritev2"⟩,
  ⟨329, ascii "pkey_mprotect"⟩, ⟨330, ascii "pkey_alloc"⟩, ⟨331, ascii "pkey_free"⟩,
  ⟨332, ascii "statx"⟩, ⟨333, ascii "io_pgetevents"⟩, ⟨334, ascii "rseq"⟩,
  ⟨335, ascii "uretprobe"⟩, ⟨424, ascii "pidfd_send_signal"⟩, ⟨425, ascii "io_uring_setup"⟩,
  ⟨426, ascii "io_uring_enter"⟩, ⟨427, ascii "io_uring_register"⟩, ⟨428, ascii "open_tree"⟩,
  ⟨429, ascii "move_mount"⟩, ⟨430, ascii "fsopen"⟩, ⟨431, ascii "fsconfig"⟩,
  ⟨432, ascii "fsmount"⟩, ⟨433, ascii "fspick"⟩, ⟨434, ascii "pidfd_open"⟩, ⟨435, ascii "clone3"⟩,
  ⟨436, ascii "close_range"⟩, ⟨437, ascii "openat2"⟩, ⟨438, ascii "pidfd_getfd"⟩,
  ⟨439, ascii "faccessat2"⟩, ⟨440, ascii "process_madvise"⟩, ⟨441, ascii "epoll_pwait2"⟩,
  ⟨442, ascii "mount_setattr"⟩, ⟨443, ascii "quotactl_fd"⟩,
  ⟨444, ascii "landlock_create_ruleset"⟩, ⟨445, ascii "landlock_add_rule"⟩,
  ⟨446, ascii "landlock_restrict_self"⟩, ⟨447, ascii "memfd_secret"⟩,
  ⟨448, ascii "process_mrelease"⟩, ⟨449, ascii "futex_waitv"⟩,
  ⟨450, ascii "set_mempolicy_home_node"⟩, ⟨451, ascii "cachestat"⟩, ⟨452, ascii "fchmodat2"⟩,
  ⟨453, ascii "map_shadow_stack"⟩, ⟨454, ascii "futex_wake"⟩, ⟨455, ascii "futex_wait"⟩,
  ⟨456, ascii "futex_requeue"⟩, ⟨457, ascii "statmount"⟩, ⟨458, ascii "listmount"⟩,
  ⟨459, ascii "lsm_get_self_attr"⟩, ⟨460, ascii "lsm_set_self_attr"⟩,
  ⟨461, ascii "lsm_list_modules"⟩, ⟨462, ascii "mseal"⟩, ⟨463, ascii "setxattrat"⟩,
  ⟨464, ascii "getxattrat"⟩, ⟨465, ascii "listxattrat"⟩, ⟨466, ascii "removexattrat"⟩,
  ⟨467, ascii "open_tree_attr"⟩, ⟨468, ascii "file_getattr"⟩, ⟨469, ascii "file_setattr"⟩]

/-- `idToName` after the loop of `init`. -/
def idToName : Int64 → Option GoString :=
  entries.foldl (fun names entry => Function.update names entry.id (some entry.name)) fun _ => none

/-- `Name`. -/
def name (id : Int64) : GoString :=
  match idToName id with
  | some name => name
  | none => ascii "syscall_" ++ Strconv.hex id.toInt

/-- `nameToID` after the loop of `init`. -/
def nameToID : GoString → Option Int64 :=
  entries.foldl (fun ids entry => Function.update ids entry.name (some entry.id)) fun _ => none

/-- `ID`; `none` for an unknown name. -/
protected def id (name : GoString) : Option Int64 := nameToID name

/-! ## Names tell ids apart -/

/-- A number for a name; those of the entries are all different. -/
def nameCode (name : GoString) : ℕ := name.foldl (fun acc b => acc * 256 + b.toNat) 0 % 9358

/-- No number occurs twice, or is a bit that was set before. -/
def freshIn : ℕ → List ℕ → Bool
  | _, [] => true
  | seen, c :: cs => !seen.testBit c && freshIn (seen ||| 1 <<< c) cs

theorem nodup_of_freshIn {cs : List ℕ} {seen : ℕ} (fresh : freshIn seen cs = true) :
    cs.Nodup ∧ ∀ c ∈ cs, seen.testBit c = false := by
  induction cs generalizing seen with
  | nil => exact ⟨List.nodup_nil, List.forall_mem_nil _⟩
  | cons c cs ih =>
      rw [freshIn, Bool.and_eq_true, Bool.not_eq_true'] at fresh
      obtain ⟨distinct, unseen⟩ := ih fresh.2
      have apart : ∀ d ∈ cs, seen.testBit d = false ∧ c ≠ d := by
        intro d mem
        have bit := unseen d mem
        rw [Nat.testBit_or, Nat.one_shiftLeft, Nat.testBit_two_pow, Bool.or_eq_false_iff,
          decide_eq_false_iff_not] at bit
        exact bit
      refine ⟨List.nodup_cons.2 ⟨fun mem => (apart c mem).2 rfl, distinct⟩, ?_⟩
      exact List.forall_mem_cons.2 ⟨fresh.1, fun d mem => (apart d mem).1⟩

/-- A small letter, a digit or an underscore. -/
def nameByte (b : UInt8) : Bool :=
  Nat.ble 97 b.toNat && Nat.ble b.toNat 122 || Nat.ble 48 b.toNat && Nat.ble b.toNat 57 ||
    Nat.beq b.toNat 95

/-- What is checked of the table, all at once: its names are evaluated once only. -/
theorem entries_checked :
    (freshIn 0 (entries.map fun entry => nameCode entry.name) = true ∧
      ∀ entry ∈ entries, ¬ ascii "syscall_" <+: entry.name ∧ entry.name ≠ [] ∧ 61 ∉ entry.name) ∧
    (entries.all fun entry => entry.name.all nameByte) = true := by
  decide +kernel

/-- The names of the entries are different, none is that of an unknown syscall, and none is
empty or has an equals sign. -/
theorem entries_names : freshIn 0 (entries.map fun entry => nameCode entry.name) = true ∧
    ∀ entry ∈ entries, ¬ ascii "syscall_" <+: entry.name ∧ entry.name ≠ [] ∧ 61 ∉ entry.name :=
  entries_checked.1

theorem nameByte_of_mem_entries {entry : Entry} (mem : entry ∈ entries) {b : UInt8}
    (inside : b ∈ entry.name) : nameByte b = true :=
  List.all_eq_true.mp (List.all_eq_true.mp entries_checked.2 entry mem) b inside

theorem entries_names_nodup : (entries.map Entry.name).Nodup := by
  have codes := (nodup_of_freshIn entries_names.1).1
  rw [← Function.comp_def nameCode Entry.name, ← List.map_map] at codes
  exact codes.of_map

/-- What the table has comes from an entry. -/
theorem exists_of_idToName {id : Int64} {name : GoString} (known : idToName id = some name) :
    ∃ entry ∈ entries, entry.id = id ∧ entry.name = name := by
  rcases Loop.exists_of_foldl_update known with found | none
  · exact found
  · cases none

/-- Ids with one name are the same, whether known or not. -/
theorem name_injective : Function.Injective name := by
  have apart : ∀ {entry : Entry} {id : Int64}, entry ∈ entries →
      entry.name ≠ ascii "syscall_" ++ Strconv.hex id.toInt := by
    intro entry id mem same
    exact (entries_names.2 entry mem).1 (same ▸ List.prefix_append _ _)
  intro id id' same
  unfold name at same
  split at same <;> split at same
  next known _ _ known' =>
    obtain ⟨entry, mem, rfl, rfl⟩ := exists_of_idToName known
    obtain ⟨entry', mem', rfl, rfl⟩ := exists_of_idToName known'
    rw [List.inj_on_of_nodup_map entries_names_nodup mem mem' same]
  next known _ _ =>
    obtain ⟨entry, mem, -, rfl⟩ := exists_of_idToName known
    exact absurd same (apart mem)
  next known =>
    obtain ⟨entry, mem, -, rfl⟩ := exists_of_idToName known
    exact absurd same.symm (apart mem)
  next => exact Int64.toInt_inj.1 (Strconv.hex_injective (List.append_cancel_left same))

/-! ## Ids of names -/

/-- The known names are those of the entries. -/
theorem id_eq_some_iff {name : GoString} {id : Int64} :
    Syscalls.id name = some id ↔ ∃ entry ∈ entries, entry.name = name ∧ entry.id = id := by
  constructor
  · intro known
    rcases Loop.exists_of_foldl_update known with found | none
    · exact found
    · cases none
  · rintro ⟨entry, mem, rfl, rfl⟩
    exact Loop.foldl_update_of_mem mem entries_names_nodup

/-- No known name is empty or has an equals sign. -/
theorem plain_of_id {name : GoString} {id : Int64} (known : Syscalls.id name = some id) :
    name ≠ [] ∧ 61 ∉ name := by
  obtain ⟨entry, mem, rfl, -⟩ := id_eq_some_iff.mp known
  exact (entries_names.2 entry mem).2

end Litrace.Syscalls
