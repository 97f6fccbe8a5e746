import Litrace.Event

/-!
# System call numbers and argument schemas

The part of the generated header `syscalls/x86_64.h` that the programs read:
the numbers they compare with, and the table `syscall_schemas`.  An entry lists
the codes of the declared arguments; `render_schema_entry` of the generator
pads them with `ARG_NONE`, as `SyscallArgSchema.entry` does.

Only the numbers that some program or result names are listed; the table is
complete.  It is kept as data, and what is needed of it (that it is sorted by
number, which arguments are of which kind) is computed from it by the kernel in
`Litrace.Bpf.VarSchema` and `Litrace.Trace.Modes`.
-/

namespace Litrace.Bpf

def nrRead : Int64 := 0
def nrWrite : Int64 := 1
def nrOpen : Int64 := 2
def nrNewstat : Int64 := 4
def nrNewfstat : Int64 := 5
def nrNewlstat : Int64 := 6
def nrAccess : Int64 := 21
def nrClone : Int64 := 56
def nrFork : Int64 := 57
def nrVfork : Int64 := 58
def nrExecve : Int64 := 59
def nrExit : Int64 := 60
def nrChdir : Int64 := 80
def nrRename : Int64 := 82
def nrUnlink : Int64 := 87
def nrExitGroup : Int64 := 231
def nrOpenat : Int64 := 257
def nrNewfstatat : Int64 := 262
def nrUnlinkat : Int64 := 263
def nrRenameat : Int64 := 264
def nrFaccessat : Int64 := 269
def nrRenameat2 : Int64 := 316
def nrStatx : Int64 := 332
def nrClone3 : Int64 := 435
def nrOpenat2 : Int64 := 437
def nrFaccessat2 : Int64 := 439

/-- `struct syscall_arg_schema`. -/
structure SyscallArgSchema where
  syscallId : Int64
  argCount : UInt8
  argTypes : Vector UInt8 6
  deriving DecidableEq

/-- An entry with its declared codes, padded to six. -/
def SyscallArgSchema.entry (syscallId : Int64) (declared : List UInt8) :
    SyscallArgSchema where
  syscallId := syscallId
  argCount := declared.length.toUInt8
  argTypes := Vector.ofFn fun i => declared.getD i.1 ArgType.none

open SyscallArgSchema (entry)
open ArgType (int uint fd mode flags off ptr raw)
open VarArgKind (string bytes argv)

/-- `syscall_schemas`. -/
def syscallSchemas : List SyscallArgSchema := [
  entry 0 [fd, bytes, uint],
  entry 1 [fd, bytes, uint],
  entry 2 [string, flags, mode],
  entry 3 [fd],
  entry 4 [string, ptr],
  entry 5 [fd, ptr],
  entry 6 [string, ptr],
  entry 7 [fd, fd, int],
  entry 8 [fd, off, int],
  entry 9 [uint, uint, uint, uint, fd, uint],
  entry 10 [uint, uint, uint],
  entry 11 [uint, uint],
  entry 12 [uint],
  entry 13 [int, ptr, ptr, uint],
  entry 14 [int, ptr, ptr, uint],
  entry 15 [],
  entry 16 [fd, uint, uint],
  entry 17 [fd, string, uint, off],
  entry 18 [fd, string, uint, off],
  entry 19 [fd, ptr, uint],
  entry 20 [fd, ptr, uint],
  entry 21 [string, mode],
  entry 22 [fd],
  entry 23 [int, ptr, ptr, ptr, ptr],
  entry 24 [],
  entry 25 [uint, uint, uint, uint, uint],
  entry 26 [uint, uint, int],
  entry 27 [uint, uint, ptr],
  entry 28 [uint, uint, int],
  entry 29 [int, uint, int],
  entry 30 [int, string, int],
  entry 31 [int, int, ptr],
  entry 32 [fd],
  entry 33 [fd, fd],
  entry 34 [],
  entry 35 [ptr, ptr],
  entry 36 [int, ptr],
  entry 37 [uint],
  entry 38 [int, ptr, ptr],
  entry 39 [],
  entry 40 [fd, fd, off, uint],
  entry 41 [int, int, int],
  entry 42 [fd, ptr, int],
  entry 43 [fd, ptr, ptr],
  entry 44 [fd, ptr, uint, uint, ptr, int],
  entry 45 [fd, ptr, uint, uint, ptr, ptr],
  entry 46 [fd, ptr, uint],
  entry 47 [fd, ptr, uint],
  entry 48 [fd, int],
  entry 49 [fd, ptr, int],
  entry 50 [fd, int],
  entry 51 [fd, ptr, ptr],
  entry 52 [fd, ptr, ptr],
  entry 53 [int, int, int, ptr],
  entry 54 [fd, int, int, string, int],
  entry 55 [fd, int, int, string, ptr],
  entry 56 [uint, uint, ptr, ptr, uint],
  entry 57 [],
  entry 58 [],
  entry 59 [string, argv, argv],
  entry 60 [int],
  entry 61 [int, ptr, int, ptr],
  entry 62 [int, int],
  entry 63 [ptr],
  entry 64 [int, int, int],
  entry 65 [int, ptr, uint],
  entry 66 [int, int, int, uint],
  entry 67 [string],
  entry 68 [int, int],
  entry 69 [int, ptr, uint, int],
  entry 70 [int, ptr, uint, uint, int],
  entry 71 [int, int, ptr],
  entry 72 [fd, uint, uint],
  entry 73 [fd, uint],
  entry 74 [fd],
  entry 75 [fd],
  entry 76 [string, uint],
  entry 77 [fd, off],
  entry 78 [fd, ptr, uint],
  entry 79 [string, uint],
  entry 80 [string],
  entry 81 [fd],
  entry 82 [string, string],
  entry 83 [string, mode],
  entry 84 [string],
  entry 85 [string, mode],
  entry 86 [string, string],
  entry 87 [string],
  entry 88 [string, string],
  entry 89 [string, string, int],
  entry 90 [string, mode],
  entry 91 [fd, mode],
  entry 92 [string, int, int],
  entry 93 [fd, int, int],
  entry 94 [string, int, int],
  entry 95 [mode],
  entry 96 [ptr, ptr],
  entry 97 [uint, ptr],
  entry 98 [int, ptr],
  entry 99 [ptr],
  entry 100 [ptr],
  entry 101 [uint, uint, uint, uint],
  entry 102 [],
  entry 103 [int, string, int],
  entry 104 [],
  entry 105 [int],
  entry 106 [int],
  entry 107 [],
  entry 108 [],
  entry 109 [int, int],
  entry 110 [],
  entry 111 [],
  entry 112 [],
  entry 113 [int, int],
  entry 114 [int, int],
  entry 115 [int, ptr],
  entry 116 [int, ptr],
  entry 117 [int, int, int],
  entry 118 [ptr, ptr, ptr],
  entry 119 [int, int, int],
  entry 120 [ptr, ptr, ptr],
  entry 121 [int],
  entry 122 [int],
  entry 123 [int],
  entry 124 [int],
  entry 125 [raw, raw],
  entry 126 [raw, raw],
  entry 127 [ptr, uint],
  entry 128 [ptr, ptr, ptr, uint],
  entry 129 [int, int, ptr],
  entry 130 [ptr, uint],
  entry 131 [ptr, ptr],
  entry 132 [string, ptr],
  entry 133 [string, mode, uint],
  entry 135 [uint],
  entry 136 [uint, ptr],
  entry 137 [string, ptr],
  entry 138 [fd, ptr],
  entry 139 [int, uint, uint],
  entry 140 [int, int],
  entry 141 [int, int, int],
  entry 142 [int, ptr],
  entry 143 [int, ptr],
  entry 144 [int, int, ptr],
  entry 145 [int],
  entry 146 [int],
  entry 147 [int],
  entry 148 [int, ptr],
  entry 149 [uint, uint],
  entry 150 [uint, uint],
  entry 151 [int],
  entry 152 [],
  entry 153 [],
  entry 154 [int, ptr, uint],
  entry 155 [string, string],
  entry 157 [int, uint, uint, uint, uint],
  entry 158 [int, uint],
  entry 159 [ptr],
  entry 160 [uint, ptr],
  entry 161 [string],
  entry 162 [],
  entry 163 [string],
  entry 164 [ptr, ptr],
  entry 165 [string, string, string, uint, ptr],
  entry 166 [string, int],
  entry 167 [string, int],
  entry 168 [string],
  entry 169 [int, int, uint, ptr],
  entry 170 [string, int],
  entry 171 [string, int],
  entry 172 [uint],
  entry 173 [uint, uint, int],
  entry 175 [ptr, uint, string],
  entry 176 [string, uint],
  entry 179 [uint, string, int, ptr],
  entry 186 [],
  entry 187 [fd, off, uint],
  entry 188 [string, string, ptr, uint, int],
  entry 189 [string, string, ptr, uint, int],
  entry 190 [fd, string, ptr, uint, int],
  entry 191 [string, string, ptr, uint],
  entry 192 [string, string, ptr, uint],
  entry 193 [fd, string, ptr, uint],
  entry 194 [string, string, uint],
  entry 195 [string, string, uint],
  entry 196 [fd, string, uint],
  entry 197 [string, string],
  entry 198 [string, string],
  entry 199 [fd, string],
  entry 200 [int, int],
  entry 201 [ptr],
  entry 202 [ptr, int, uint, ptr, ptr, uint],
  entry 203 [int, uint, ptr],
  entry 204 [int, uint, ptr],
  entry 206 [uint, ptr],
  entry 207 [int],
  entry 208 [int, uint, uint, ptr, ptr],
  entry 209 [int, uint, ptr],
  entry 210 [int, ptr, ptr],
  entry 213 [int],
  entry 216 [uint, uint, uint, uint, uint],
  entry 217 [fd, ptr, uint],
  entry 218 [ptr],
  entry 219 [],
  entry 220 [int, ptr, uint, ptr],
  entry 221 [fd, off, uint, int],
  entry 222 [int, ptr, ptr],
  entry 223 [int, int, ptr, ptr],
  entry 224 [int, ptr],
  entry 225 [int],
  entry 226 [int],
  entry 227 [int, ptr],
  entry 228 [int, ptr],
  entry 229 [int, ptr],
  entry 230 [int, int, ptr, ptr],
  entry 231 [int],
  entry 232 [fd, ptr, int, int],
  entry 233 [fd, int, fd, ptr],
  entry 234 [int, int, int],
  entry 235 [string, ptr],
  entry 237 [uint, uint, mode, ptr, uint, uint],
  entry 238 [mode, ptr, uint],
  entry 239 [ptr, ptr, uint, uint, uint],
  entry 240 [string, int, mode, ptr],
  entry 241 [string],
  entry 242 [int, string, uint, uint, ptr],
  entry 243 [int, string, uint, ptr, ptr],
  entry 244 [int, ptr],
  entry 245 [int, ptr, ptr],
  entry 246 [uint, uint, ptr, uint],
  entry 247 [int, int, ptr, int, ptr],
  entry 248 [string, string, ptr, uint, raw],
  entry 249 [string, string, string, raw],
  entry 250 [int, uint, uint, uint, uint],
  entry 251 [int, int, int],
  entry 252 [int, int],
  entry 253 [],
  entry 254 [fd, string, mode],
  entry 255 [fd, int],
  entry 256 [int, uint, ptr, ptr],
  entry 257 [fd, string, flags, mode],
  entry 258 [fd, string, mode],
  entry 259 [fd, string, mode, uint],
  entry 260 [fd, string, int, int, int],
  entry 261 [fd, string, ptr],
  entry 262 [fd, string, ptr, int],
  entry 263 [fd, string, int],
  entry 264 [fd, string, fd, string],
  entry 265 [fd, string, fd, string, int],
  entry 266 [string, fd, string],
  entry 267 [fd, string, string, int],
  entry 268 [fd, string, mode],
  entry 269 [fd, string, mode],
  entry 270 [int, ptr, ptr, ptr, ptr, ptr],
  entry 271 [fd, fd, ptr, ptr, uint],
  entry 272 [uint],
  entry 273 [ptr, uint],
  entry 274 [int, ptr, ptr],
  entry 275 [fd, off, fd, off, uint, uint],
  entry 276 [fd, fd, uint, uint],
  entry 277 [fd, off, off, uint],
  entry 278 [fd, ptr, uint, uint],
  entry 279 [int, uint, ptr, ptr, ptr, int],
  entry 280 [fd, string, ptr, int],
  entry 281 [fd, ptr, int, int, ptr, uint],
  entry 282 [fd, ptr, uint],
  entry 283 [int, int],
  entry 284 [uint],
  entry 285 [fd, mode, off, off],
  entry 286 [fd, int, ptr, ptr],
  entry 287 [fd, ptr],
  entry 288 [fd, ptr, ptr, int],
  entry 289 [fd, ptr, uint, int],
  entry 290 [uint, int],
  entry 291 [int],
  entry 292 [fd, fd, int],
  entry 293 [fd, int],
  entry 294 [int],
  entry 295 [fd, ptr, uint, uint, uint],
  entry 296 [fd, ptr, uint, uint, uint],
  entry 297 [int, int, int, ptr],
  entry 298 [ptr, int, int, fd, uint],
  entry 299 [fd, ptr, uint, uint, ptr],
  entry 300 [uint, uint],
  entry 301 [fd, uint, mode, fd, string],
  entry 302 [int, uint, ptr, ptr],
  entry 303 [fd, string, ptr, ptr, int],
  entry 304 [fd, ptr, int],
  entry 305 [int, ptr],
  entry 306 [fd],
  entry 307 [fd, ptr, uint, uint],
  entry 308 [fd, int],
  entry 309 [ptr, ptr, ptr],
  entry 310 [int, ptr, uint, ptr, uint, uint],
  entry 311 [int, ptr, uint, ptr, uint, uint],
  entry 312 [int, int, int, uint, uint],
  entry 313 [fd, string, int],
  entry 314 [int, ptr, uint],
  entry 315 [int, ptr, uint, uint],
  entry 316 [fd, string, fd, string, uint],
  entry 317 [uint, uint, ptr],
  entry 318 [string, uint, uint],
  entry 319 [string, uint],
  entry 320 [fd, fd, uint, string, uint],
  entry 321 [int, ptr, uint],
  entry 322 [fd, string, argv, argv, int],
  entry 323 [int],
  entry 324 [int, uint, int],
  entry 325 [uint, uint, int],
  entry 326 [fd, off, fd, off, uint, uint],
  entry 327 [fd, ptr, uint, uint, uint, raw],
  entry 328 [fd, ptr, uint, uint, uint, raw],
  entry 329 [uint, uint, uint, int],
  entry 330 [uint, uint],
  entry 331 [int],
  entry 332 [fd, string, uint, mode, ptr],
  entry 333 [int, uint, uint, ptr, ptr, ptr],
  entry 334 [ptr, uint, int, uint],
  entry 335 [],
  entry 424 [fd, int, ptr, uint],
  entry 425 [uint, ptr],
  entry 426 [fd, uint, uint, uint, ptr, uint],
  entry 427 [fd, uint, ptr, uint],
  entry 428 [fd, string, uint],
  entry 429 [fd, string, fd, string, uint],
  entry 430 [string, uint],
  entry 431 [fd, uint, string, ptr, int],
  entry 432 [fd, uint, uint],
  entry 433 [fd, string, uint],
  entry 434 [int, uint],
  entry 435 [ptr, uint],
  entry 436 [fd, fd, uint],
  entry 437 [fd, string, ptr, uint],
  entry 438 [fd, fd, uint],
  entry 439 [fd, string, mode, int],
  entry 440 [fd, ptr, uint, int, uint],
  entry 441 [fd, ptr, int, ptr, ptr, uint],
  entry 442 [fd, string, uint, ptr, uint],
  entry 443 [fd, uint, int, ptr],
  entry 444 [ptr, uint, uint],
  entry 445 [fd, raw, ptr, uint],
  entry 446 [fd, uint],
  entry 447 [uint],
  entry 448 [fd, uint],
  entry 449 [ptr, uint, uint, ptr, int],
  entry 450 [uint, uint, uint, uint],
  entry 451 [fd, ptr, ptr, uint],
  entry 452 [fd, string, mode, uint],
  entry 453 [uint, uint, uint],
  entry 454 [ptr, mode, int, uint],
  entry 455 [ptr, uint, mode, uint, ptr, int],
  entry 456 [ptr, uint, int, int],
  entry 457 [ptr, ptr, uint, uint],
  entry 458 [ptr, ptr, uint, uint],
  entry 459 [uint, ptr, ptr, uint],
  entry 460 [uint, ptr, uint, uint],
  entry 461 [ptr, ptr, uint],
  entry 462 [uint, uint, uint],
  entry 463 [fd, string, uint, string, ptr, uint],
  entry 464 [fd, string, uint, string, ptr, uint],
  entry 465 [fd, string, uint, string, uint],
  entry 466 [fd, string, uint, string],
  entry 467 [fd, string, uint, ptr, uint],
  entry 468 [fd, string, ptr, uint, uint],
  entry 469 [fd, string, ptr, uint, uint]]

end Litrace.Bpf
