import Recast.Text.Basic

/-!
# Named character classes

General categories, scripts and binary properties by their names, as ranges of code points, and the
groups of characters that differ only in case. The tables are written as distances in base 36: from
the end of one range to the start of the next, and after a plus sign to its end.
-/

namespace Recast.Pattern

/-- First and last code point of each run of a class. -/
abbrev Ranges := List (Nat × Nat)

namespace Property

def digit (c : Char) : Nat := if Text.isDigit c then c.toNat - 48 else c.toNat - 87

def number (s : List Char) : Nat := s.foldl (fun n c => n * 36 + digit c) 0

/-- The numbers of each entry of a table. -/
def entries (s : String) : List (List Nat) :=
  ((Text.splitAt (· == ' ') s.toList).filter (!·.isEmpty)).map fun entry =>
    (Text.splitAt (· == '+') entry).map number

/-- The ranges that distances stand for, after the code point `last`. -/
def rangesAfter (last : Nat) : List (List Nat) → Ranges
  | [] => []
  | [gap] :: rest => (last + gap, last + gap) :: rangesAfter (last + gap) rest
  | (gap :: length :: _) :: rest =>
    (last + gap, last + gap + length) :: rangesAfter (last + gap + length) rest
  | [] :: rest => rangesAfter last rest

def decode (s : String) : Ranges := rangesAfter 0 (entries s)

/-- General categories. -/
def categories : List (String × String) := [
  ("c other",
    "0+v 2o+w e jv+1 7+3 8 2 l b2 13+1 1f+1 4 1k+7 s+3 7+g n 5d 1d+1 1o+1 2u+d 1o+1 1e+1 g " ++
    "t+1 2 c+4 x+6 24 4i 9+1 3+1 n 8 2+2 5+1 a+1 3+1 5+7 2+3 3 6+1 q+1 4 7+3 3+1 n 8 3 3 " ++
    "3+1 2 6+3 3+1 4+2 2+6 5 2+6 i+9 4 a 4 n 8 3 6+1 b 4 4+1 2+e 5+1 d+6 8 4 9+1 3+1 n 8 3 " ++
    "6+1 a+1 3+1 4+6 4+3 3 6+1 j+9 3 7+2 4 5+2 3 2 3+2 3+2 4+2 d+3 6+2 4 5+1 2+5 2+d m+4 e " ++
    "4 o h+1 a 4 5+6 3 4 3+1 5+1 b+6 n 4 o b 6+1 a 4 5+6 3+4 4 5+1 b 4+b e 4 1g 4 7+3 h+1 r " ++
    "4 j+2 p a 2+1 8+2 2+3 7 2 9+5 b+1 4+b 1n+3 u+10 3 2 6 p 2 o+1 6 2 8 b+1 5+v 21 11+3 14 " ++
    "11 g e+10 5j 2+4 2+1 ai 5+1 8 2 5+1 16 5+1 y 5+1 8 2 5+1 g 1m 5+1 1w+1 x+2 r+5 2f+1 " ++
    "7+1 im+2 2i+6 n+8 p+8 l+b e 4 3+b 2n+1 b+5 b+5 f c+5 2i+6 18+4 1z+9 w d+3 d+3 2+2 17+1 " ++
    "6+a 19+3 r+5 c+2 1r+1 1u u+1 c+5 b+5 f+1 1b+1 d+j 26 4n+7 1p+2 g+2 1r+4 18+1 c+7 18+4 " ++
    "ev+1 7+1 13+1 7+1 9 2 2 2 w+1 1i g f+1 7 k+1 4 a c+4 r+4 1e+f 3+1 s e+2 z+d y+e 3x+3 " ++
    "ij+l c+k 1ed+1 an+4 1a 2+4 2+1 1l+6 3+d p+8 8 8 8 8 8 8 8 8 3j+x r 2i+b 5z+p 29 2f+1 " ++
    "2w+4 18 2n 2f+8 1d mlq+2 1k+8 9p+j 55+7 66+j 1p+2 b+5 1l+7 1z+7 d+5 39+a v+2 27 c+3 y " ++
    "1k+8 f+1 b+1 2w+n t+9 7+1 7+1 7+8 8 8 1p+3 3j+1 b+5 8md+b o+3 1e+3 1kx+4xr a7+1 2z+11 " ++
    "8+b 6+4 r 6 2 3 3 i3+v 17+5 1g k 5+3 6 3s+3 5b+2 7+1 7+1 7+1 4+2 8 8+c 3+1 d r k 3 g+1 " ++
    "f+x 3g+4 4+3 1a+2 2h e+2 2+1a 1b+3l u+2 1e+e t+3 11+8 v+4 18+4 v 12+3 f+15 4f+1 b+5 " ++
    "11+3 11+3 15+7 1h+a d g 8 3 c g 8 3+2 1h+b 8o+8 n+9 9+n 7 17 a+1w 7+1 2 19 3+2 2+1 o " ++
    "21+7 a+1b k 3+4 y+2 s+4 s+11 1l+3 l+1 1f 3+4 9 4 u+1 4+3 b+6 a+6 1t+v 14+3 d+8 1j+2 " ++
    "u+1 s+4 r+6 5+b 8+27 22+1i 1g+c 1g+6 1b+7 b+5 13+2 u+7 3+5r w 17 4+1 3+f 7+7 a+w 1b+7 " ++
    "17+l r+11 t+j o+8 27+3 11+8 1r 6+c q+6 b+5 1i j+7 14+8 2p l+a j 1c+1p 8 2 5 g c+5 1o+4 " ++
    "b+5 5 9+1 3+1 n 8 3 6 b+1 3+1 4+1 2+5 2+4 8+1 8+2 6+a b 2+1 2 13 b 2+1 2 5 b 3+7 3+s " ++
    "2l 6+t 21+7 b+4l 1j+1 13+x 1y+a b+5 e+i 1n+5 b+5 l+r s+1 g+3 o+54 1p+2r 2c+b 9+1 2+1 9 " ++
    "3 v 3+1 d+8 b+1x 9+1 1b+1 c+q 21+7 2c+c 22+6 b+2d 9+2f z+d b+5 a 1a f+9 u+2 x+1 n f+20 " ++
    "8 3 19+2 2 3 a+7 b+5 7 3 12 3 7+6 b+5 19+3 b+6t q+6 i 16+2 u+2c 2+e 1f+c po+2t 34 6+a " ++
    "5h+217 2s+c tt+f n+9 330+4 g8+5a0 1n+1c5 fu+6 w b+3 2a b+5 v+1 7+9 1z+9 b 8 m+4 k+bz " ++
    "1n+5h 2k+4 q+1 q+17 24+3 1m+6 i+1r 6+a 8+8 5p3+14 x+2o 38+6po 5 8 3 84+e 2+s 4+1 2+d " ++
    "5+7 b1+1s3 30+4 e+2 a+6 b+1 5+31b 72+2 c5+5 o+e i+e 1b+1 o+8 39+1n 6v+9 14+1 23+7 35+k " ++
    "1z+3d l+b l+b 2g+8 q+3q 2e 20 3+1 2+1 3+1 5 d 2 8 1u 5+1 9 8 t 5 6 2+2 8 9h+1 85+1 " ++
    "jj+e 6 g+un w+5 7+5w 8 i+1 8 3 6+4 1r+w 2+33 1a+2 f+1 b+3 3+8v w+g 1n+4 2+cv 17+5x " ++
    "18+3 2+5b w n+7 3+67 8 5 3 g 5i+1 h+14 25+3 b+3 3+ls 1x+23 1q+5d 5 s 3 2+1 2 b 5 2 2+5 " ++
    "2+3 2 2 2 4 3 2+1 2 2 2 2 2 3 2+1 5 8 5 5 2 b i+4 4 6 i+1f 3+7h 19+3 2t+b g+1 g g 12+9 " ++
    "4v+1j u+c 19+3 a+6 3+d 7+49 re+2 i+2 e+2 63+5 d+3 2+e d+3 1l+7 b+5 15+7 v+1 d+3 3+d " ++
    "a+12 9l+7 f+1 e+2 c+2 1m 2+3 h+1 d+3 b+6 44 2w+sk wyp+v 3dr+1 4gf+1 5rm+e hb+1wh " ++
    "f3+15t 3t8+4 6jv+f62t 6p+47bj"),
  ("cc control cntrl",
    "0+v 2o+w"),
  ("cf format",
    "4t 11v+5 n 5d 1e ap+1 29 2zw 1kt+4 r+4 1e+4 2+9 17yo 6y+2 3b6 g 6zn+f qxt+3 440+7 h407 " ++
    "v+2n"),
  ("cn unassigned",
    "oo+1 7+3 8 2 l b2 13+1 1f+1 4 1k+7 s+3 7+a 7j 1p+1 2u+d 1o+1 1e+1 g t+1 2 c+4 z+4 6m " ++
    "9+1 3+1 n 8 2+2 5+1 a+1 3+1 5+7 2+3 3 6+1 q+1 4 7+3 3+1 n 8 3 3 3+1 2 6+3 3+1 4+2 2+6 " ++
    "5 2+6 i+9 4 a 4 n 8 3 6+1 b 4 4+1 2+e 5+1 d+6 8 4 9+1 3+1 n 8 3 6+1 a+1 3+1 4+6 4+3 3 " ++
    "6+1 j+9 3 7+2 4 5+2 3 2 3+2 3+2 4+2 d+3 6+2 4 5+1 2+5 2+d m+4 e 4 o h+1 a 4 5+6 3 4 " ++
    "3+1 5+1 b+6 n 4 o b 6+1 a 4 5+6 3+4 4 5+1 b 4+b e 4 1g 4 7+3 h+1 r 4 j+2 p a 2+1 8+2 " ++
    "2+3 7 2 9+5 b+1 4+b 1n+3 u+10 3 2 6 p 2 o+1 6 2 8 b+1 5+v 21 11+3 14 11 g e+10 5j 2+4 " ++
    "2+1 ai 5+1 8 2 5+1 16 5+1 y 5+1 8 2 5+1 g 1m 5+1 1w+1 x+2 r+5 2f+1 7+1 im+2 2i+6 n+8 " ++
    "p+8 l+b e 4 3+b 2n+1 b+5 b+5 r+5 2i+6 18+4 1z+9 w d+3 d+3 2+2 17+1 6+a 19+3 r+5 c+2 " ++
    "1r+1 1u u+1 c+5 b+5 f+1 1b+1 d+j 26 4n+7 1p+2 g+2 1r+4 18+1 c+7 18+4 ev+1 7+1 13+1 7+1 " ++
    "9 2 2 2 w+1 1i g f+1 7 k+1 4 a 2u d+1 s e+2 z+d y+e 3x+3 ij+l c+k 1ed+1 an+4 1a 2+4 " ++
    "2+1 1l+6 3+d p+8 8 8 8 8 8 8 8 8 3j+x r 2i+b 5z+p 29 2f+1 2w+4 18 2n 2f+8 1d mlq+2 " ++
    "1k+8 9p+j 55+7 66+j 1p+2 b+5 1l+7 1z+7 d+5 39+a v+2 27 c+3 y 1k+8 f+1 b+1 2w+n t+9 7+1 " ++
    "7+1 7+8 8 8 1p+3 3j+1 b+5 8md+b o+3 1e+3 6sv+1 2z+11 8+b 6+4 r 6 2 3 3 i3+v 17+5 1g k " ++
    "5+3 6 3s+1 2 5b+2 7+1 7+1 7+1 4+2 8 8+9 6+1 d r k 3 g+1 f+x 3g+4 4+3 1a+2 2h e+2 2+1a " ++
    "1b+3l u+2 1e+e t+3 11+8 v+4 18+4 v 12+3 f+15 4f+1 b+5 11+3 11+3 15+7 1h+a d g 8 3 c g " ++
    "8 3+2 1h+b 8o+8 n+9 9+n 7 17 a+1w 7+1 2 19 3+2 2+1 o 21+7 a+1b k 3+4 y+2 s+4 s+11 1l+3 " ++
    "l+1 1f 3+4 9 4 u+1 4+3 b+6 a+6 1t+v 14+3 d+8 1j+2 u+1 s+4 r+6 5+b 8+27 22+1i 1g+c 1g+6 " ++
    "1b+7 b+5 13+2 u+7 3+5r w 17 4+1 3+f 7+7 a+w 1b+7 17+l r+11 t+j o+8 27+3 11+8 1x+9 2+1 " ++
    "q+6 b+5 1i j+7 14+8 2p l+a j 1c+1p 8 2 5 g c+5 1o+4 b+5 5 9+1 3+1 n 8 3 6 b+1 3+1 4+1 " ++
    "2+5 2+4 8+1 8+2 6+a b 2+1 2 13 b 2+1 2 5 b 3+7 3+s 2l 6+t 21+7 b+4l 1j+1 13+x 1y+a b+5 " ++
    "e+i 1n+5 b+5 l+r s+1 g+3 o+54 1p+2r 2c+b 9+1 2+1 9 3 v 3+1 d+8 b+1x 9+1 1b+1 c+q 21+7 " ++
    "2c+c 22+6 b+2d 9+2f z+d b+5 a 1a f+9 u+2 x+1 n f+20 8 3 19+2 2 3 a+7 b+5 7 3 12 3 7+6 " ++
    "b+5 19+3 b+6t q+6 i 16+2 u+2c 2+e 1f+c po+2t 34 6+a 5h+217 2s+c uv+9 330+4 g8+5a0 " ++
    "1n+1c5 fu+6 w b+3 2a b+5 v+1 7+9 1z+9 b 8 m+4 k+bz 1n+5h 2k+4 q+1 q+17 24+3 1m+6 i+1r " ++
    "6+a 8+8 5p3+14 x+2o 38+6po 5 8 3 84+e 2+s 4+1 2+d 5+7 b1+1s3 30+4 e+2 a+6 b+1 9+317 " ++
    "72+2 c5+5 o+e i+e 1b+1 o+8 39+1n 6v+9 14+1 5f+k 1z+3d l+b l+b 2g+8 q+3q 2e 20 3+1 2+1 " ++
    "3+1 5 d 2 8 1u 5+1 9 8 t 5 6 2+2 8 9h+1 85+1 jj+e 6 g+un w+5 7+5w 8 i+1 8 3 6+4 1r+w " ++
    "2+33 1a+2 f+1 b+3 3+8v w+g 1n+4 2+cv 17+5x 18+3 2+5b w n+7 3+67 8 5 3 g 5i+1 h+14 25+3 " ++
    "b+3 3+ls 1x+23 1q+5d 5 s 3 2+1 2 b 5 2 2+5 2+3 2 2 2 4 3 2+1 2 2 2 2 2 3 2+1 5 8 5 5 2 " ++
    "b i+4 4 6 i+1f 3+7h 19+3 2t+b g+1 g g 12+9 4v+1j u+c 19+3 a+6 3+d 7+49 re+2 i+2 e+2 " ++
    "63+5 d+3 2+e d+3 1l+7 b+5 15+7 v+1 d+3 3+d a+12 9l+7 f+1 e+2 c+2 1m 2+3 h+1 d+3 b+6 44 " ++
    "2w+sk wyp+v 3dr+1 4gf+1 5rm+e hb+1wh f3+15t 3t8+4 6jv+f5vq 2+t 2p+3j 6p+1e6n 1ekf+1 " ++
    "1ekf+1"),
  ("co privateuse",
    "188w+4xr jpc1+1ekd 3+1ekd"),
  ("cs surrogate",
    ""),
  ("l letter",
    "1t+p 7+p 1c b 5 6+m 2+u 2+cp 5+b f+4 8 2 3m+4 2+1 3+3 2 7 2+2 2 2+j 2+2a 2+3u 9+4l " ++
    "2+11 3 7+14 20+q 5+3 1a+16 10+1 2+2q 2 g+1 8+1 b+2 3 h 2+t u+2g c p+w a+1 5 6+l 5 a 4 " ++
    "o+o 8+a 6+n 2+6 h+15 1n+1h 4 j 8+9 g+f 5+7 3+1 3+l 2+6 2 4+3 4 h e+1 2+2 f+1 b 9+5 5+1 " ++
    "3+l 2+6 2+1 2+1 2+1 w+3 2 k+2 h+8 2+2 2+l 2+6 2+1 2+4 4 j g+1 o c+7 3+1 3+l 2+6 2+1 " ++
    "2+4 4 v+1 2+2 g i 2+5 4+2 2+3 4+1 2 2+1 4+1 4+2 4+b n 1h+7 2+2 2+m 2+f 4 r+2 2+1 3+1 v " ++
    "5+7 2+2 2+m 2+9 2+4 4 v+2 2+1 g+1 i+8 2+2 2+14 3 h 6+2 9+2 p+5 6+h 4+n 2+8 2 3+6 1n+1b " ++
    "2+1 d+6 1n+1 2 2+4 2+n 2 2+9 2+1 a 3+4 2 m+3 x 1s+7 2+z s+4 38+16 l h+5 5+3 4 4+1 8+2 " ++
    "5+c d i+11 2 6 3+16 2+98 2+3 3+6 2 2+3 3+14 2+3 3+w 2+3 3+6 2 2+3 3+e 2+1k 2+3 3+1u " ++
    "12+f h+2d 3+5 4+h7 3+g 2+p 6+22 7+7 8+h e+i f+h f+c 2+2 g+1f 10 5 1w+2g 8+4 3+x 2 6+1x " ++
    "b+u 1e+t 3+4 c+17 5+p 1j+m a+1g 2b 2m+1a i+7 1j+t e+1 b+17 r+z 16+2 b+z 3+a 6+16 3+2 " ++
    "16+3 2+5 2+1 4 6+5b 1t+7p 3+5 3+11 3+5 3+7 2 2 2 2+u 3+1g 2+6 2 4+2 2+6 4+3 3+5 5+c " ++
    "6+2 2+6 39 e h+c 2u 5 3+9 2 4+4 7 2 2 2+3 2+a 3+3 6+4 5 1h+1 22k+6c 7+3 4+1 d+11 2 6 " ++
    "3+1j 8 h+m a+6 2+6 2+6 2+6 2+6 2+6 2+6 2+6 29 d2+1 17+4 6+1 5+2d 7+2 2+2h 2+3 6+16 " ++
    "2+2l i+v 1d+f e9+533 1t+h3g 1w+19 3+7g 4+f b+1 l+1a h+u 3+1x 1e+8 3+2u 3+29 l+g 2+2 " ++
    "2+3 2+m u+1f f+1d 1r+5 4 2+1 c+r b+m q+s 8+1a t h+4 2+9 b+4 2+14 o+2 2+7 l+m 4 4+1d 2 " ++
    "4+1 3+4 3 2 p+2 3+a 8+2 d+5 3+5 3+5 a+6 2+6 2+16 2+d 7+36 u+8mb d+m 5+1c 6it+a5 3+2x " ++
    "13+6 d+4 6 2+9 2+c 2+4 2 2+1 2+1 2+2z y+a2 j+1r 3+1h 15+b 39+4 2+3q 11+p 7+p c+2g 4+5 " ++
    "3+5 3+5 3+2 10+b 2+p 2+i 2+1 2+e 3+d z+3e au+s 4+1c 1c+v e+j 2+7 7+11 b+t 3+z 5+7 " ++
    "1d+4d j+z 5+z 5+13 9+1f d+a 2+e 2+6 2+1 2+a 2+e 2+6 2+1 4+1f d+8m a+l b+7 p+5 2+15 2+8 " ++
    "1y+5 3 2+17 2+1 4 3+m b+m a+u 1u+i 2+1 b+l b+p 7+p 13+1j 7+1 1t g+3 2+2 2+s 17+s 4+s " ++
    "10+7 2+r s+1h b+l b+i e+h 33+20 1k+1e e+1e e+z 13+r a+m 6z+15 7+1 h+5 1l+s b 9+l 17+h " ++
    "1b+k s+m d+1g 1m+1 3 e+18 x+o r+z u 3 9+y 4 d+1b f+3 m 2 10+h 2+o k+1 1s+6 2 2+3 2+e " ++
    "2+9 8+1a 13+7 3+1 3+l 2+6 2+1 2+4 4 j d+4 v+9 2 3 2+11 2 q 2 19+1g j+3 l+2 v+1b l+1 2 " ++
    "55+1a 16+3 11+1b l 1o+16 e 20+q 12+6 56+17 39+1r w+7 3 3+7 2+1 2+n g 2 2n+7 3+12 h 2 t " ++
    "b+13 8 m c+19 k j+20 5k+w w+8 2+10 i 1e+t 35+6 2+1 2+11 m q+5 2+1 2+v f o+17 79+i g " ++
    "2+c 2+x 3h 28+pl 6f+5f 219+2o g+tr i+5 q+32y 6+g6 5a2+t 1cz+fs 8+u i+26 i+t j+1b h+3 " ++
    "w+k 6+i c1+18 5w+1r x+o 3+o 19+22 6 1v+c 1t+1 2 f+1 d+5p1 16+v 2q+36 6pq+3 2+6 2+1 " ++
    "2+82 g u+2 3 f+3 9+az 1s5+2y 6+c 4+8 8+9 4mf+2c 2+1y 2+1 3 3+1 3+3 2+b 2 2+6 2+1s 2+3 " ++
    "3+7 2+6 2+r 2+3 2+4 2 4+6 2+9f 3+o 2+o 2+u 2+o 2+u 2+o 2+u 2+o 2+u 2+o 2+7 1f9+u 7+5 " ++
    "7a+1p 43+18 b+6 h 8y+t j+17 dh+r 6d+t 3 5s+u 2+2 2+1 2+6 3+4 a+1 69+6 2+3 2+1 2+e 2+5g " ++
    "1o+1v 8 xh+3 2+q 2+1 2 3 2+9 2+3 2 2 7 5 2 2 2+2 2+1 2 3 2 2 2 2 2+1 2 3+3 2+6 2+3 2+3 " ++
    "2 2+9 2+g 6+2 2+4 2+g 3et+wyn x+3dp 3+4gd 3+5rk g+h9 1wj+f1 15v+3t6 6+6jt"),
  ("lc casedletter",
    "1t+p 7+p 1n b+m 2+u 2+5e 2+3 5+5r 3+p 5d+3 3+1 4+2 2 7 2+2 2 2+j 2+2a 2+3u 9+4l 2+11 " ++
    "a+14 26w+11 2 6 3+16 3+2 ip+2d 3+5 1oj+a 6+16 3+2 1t+17 1s+c 2+x 2u+7p 3+5 3+11 3+5 " ++
    "3+7 2 2 2 2+u 3+1g 2+6 2 4+2 2+6 4+3 3+5 5+c 6+2 2+6 7a 5 3+9 2 4+4 7 2 2 2+3 2+5 5 " ++
    "3+3 6+4 5 1h+1 22k+3f 3+2u 7+3 4+1 d+11 2 6 nwz+19 j+r 3r+25 2+m 4+3 2+24 p+1 4 mu+16 " ++
    "6+8 8+27 fnl+6 d+4 sq+p 7+p x2+27 2p+z 5+z 39+a 2+e 2+6 2+1 2+a 2+e 2+6 2+1 1c4+1e " ++
    "e+1e 2m+l b+l 26z+1r gv5+1r x+o 3+o jzh+2c 2+1y 2+1 3 3+1 3+3 2+b 2 2+6 2+1s 2+3 3+7 " ++
    "2+6 2+r 2+3 2+4 2 4+6 2+9f 3+o 2+o 2+u 2+o 2+u 2+o 2+u 2+o 2+u 2+o 2+7 1f9+9 2+j 7+5 " ++
    "1xy+1v"),
  ("ll lowercaseletter",
    "2p+p 1n 16+n 2+7 2 2 2 2 2 2 2 2 2 2 2 2 2 2 2 2 2 2 2 2 2 2 2 2 2 2 2 2+1 2 2 2 2 2 2 " ++
    "2 2+1 2 2 2 2 2 2 2 2 2 2 2 2 2 2 2 2 2 2 2 2 2 2 2 3 2 2+2 3 2 3 4+1 5 3 4+2 3 3 2 2 " ++
    "3 2+1 2 3 4 2 3+1 3+2 7 3 3 2 2 2 2 2 2 2 2+1 2 2 2 2 2 2 2 2 2+1 3 2 4 2 2 2 2 2 2 2 " ++
    "2 2 2 2 2 2 2 2 2 2 2 2 2 2 2 2 2 2 2 2 2 2+6 3 3+1 2 5 2 2 2 2+1w 3+p 5e 2 4 4+2 j " ++
    "s+y 2+1 4+2 2 2 2 2 2 2 2 2 2 2 2 2+4 2 3 3+1 1g+1b 2 2 2 2 2 2 2 2 2 2 2 2 2 2 2 2 2 " ++
    "a 2 2 2 2 2 2 2 2 2 2 2 2 2 2 2 2 2 2 2 2 2 2 2 2 2 2 3 2 2 2 2 2 2+1 2 2 2 2 2 2 2 2 " ++
    "2 2 2 2 2 2 2 2 2 2 2 2 2 2 2 2 2 2 2 2 2 2 2 2 2 2 2 2 2 2 2 2 2 2 2 2 2 2 2 2 1d+14 " ++
    "288+16 3+2 l5+5 1oj+8 2 3a+17 1s+c 2+x 2v 2 2 2 2 2 2 2 2 2 2 2 2 2 2 2 2 2 2 2 2 2 2 " ++
    "2 2 2 2 2 2 2 2 2 2 2 2 2 2 2 2 2 2 2 2 2 2 2 2 2 2 2 2 2 2 2 2 2 2 2 2 2 2 2 2 2 2 2 " ++
    "2 2 2 2 2 2 2 2 2+8 2 2 2 2 2 2 2 2 2 2 2 2 2 2 2 2 2 2 2 2 2 2 2 2 2 2 2 2 2 2 2 2 2 " ++
    "2 2 2 2 2 2 2 2 2 2 2 2 2 2 2 2+8 9+5 b+7 9+7 9+5 b+7 9+7 9+d 3+7 9+7 9+7 9+4 2+1 7 " ++
    "4+2 2+1 9+3 3+1 9+7 b+2 2+1 7n 4+1 4 s 5 5 3+1 9+3 5 1i 23w+1b 2 4+1 2 2 2 5 2+1 2+5 6 " ++
    "2 2 2 2 2 2 2 2 2 2 2 2 2 2 2 2 2 2 2 2 2 2 2 2 2 2 2 2 2 2 2 2 2 2 2 2 2 2 2 2 2 2 2 " ++
    "2 2 2 2 2 2+1 8 2 5 d+11 2 6 nx0 2 2 2 2 2 2 2 2 2 2 2 2 2 2 2 2 2 2 2 2 2 2 k 2 2 2 2 " ++
    "2 2 2 2 2 2 2 2 2 3s 2 2 2 2 2 2+2 2 2 2 2 2 2 2 2 2 2 2 2 2 2 2 2 2 2 2 2 2 2 2 2 2 2 " ++
    "2 2 2 2 2 2+7 2 2 3 2 2 2 2 5 2 3 2+2 2 2 2 2 2 2 2 2 2 2 6 6 2 2 2 2 2 2 2 5 2 3 2 2 " ++
    "2 2 2 2 2 r 4 mu+16 6+8 8+27 fnl+6 d+4 tm+p y6+13 3t+z 4c+a 2+e 2+6 2+1 1dw+1e 3i+l " ++
    "27v+v gw1+v 1o+o k07+p r+6 2+h r+p r+3 2 2+6 2+a r+p r+p r+p r+p r+p r+p r+p r+p r+r " ++
    "t+o 2+5 r+o 2+5 r+o 2+5 r+o 2+5 r+o 2+5 2 1f9+9 2+j 7+5 1yw+x"),
  ("lm modifierletter",
    "j4+h 5+b f+4 8 2 3q 6 db 6f 4l+1 7i+1 5 w a 4 4h 4o yd 3k fq 1cr 30 h0 cx+5 4v+1q e " ++
    "z+10 j6 e h+c 2cg+1 6q 5c d2 18+4 6 2q+1 2m+2 lxz yr+5 7j 37 t+1 3e+8 29 o 2x+3 4+1 d2 " ++
    "n 3u 31 m+1 2w+3 a glj 1a+1 1k1+5 2+15 2+8 13o x 9i 2z8 faf+3 e5+2 15+1 fb+c 1t+1 2 " ++
    "f+1 cn1+3 2+6 2+1 9iq+1p 5m+6 q6 es gc"),
  ("lo otherletter",
    "4q g 75 5+3 5t+1 mz+q 5+3 1a+v 2+9 10+1 2+2q 2 p+1 b+2 3 h 2+t u+2g c p+w m+l 17+o 8+a " ++
    "6+n 2+6 h+14 1o+1h 4 j 8+9 h+e 5+7 3+1 3+l 2+6 2 4+3 4 h e+1 2+2 f+1 b 9+5 5+1 3+l 2+6 " ++
    "2+1 2+1 2+1 w+3 2 k+2 h+8 2+2 2+l 2+6 2+1 2+4 4 j g+1 o c+7 3+1 3+l 2+6 2+1 2+4 4 v+1 " ++
    "2+2 g i 2+5 4+2 2+3 4+1 2 2+1 4+1 4+2 4+b n 1h+7 2+2 2+m 2+f 4 r+2 2+1 3+1 v 5+7 2+2 " ++
    "2+m 2+9 2+4 4 v+2 2+1 g+1 i+8 2+2 2+14 3 h 6+2 9+2 p+5 6+h 4+n 2+8 2 3+6 1n+1b 2+1 d+5 " ++
    "1o+1 2 2+4 2+n 2 2+9 2+1 a 3+4 o+3 x 1s+7 2+z s+4 38+16 l h+5 5+3 4 4+1 8+2 5+c d " ++
    "36+94 2+3 3+6 2 2+3 3+14 2+3 3+w 2+3 3+6 2 2+3 3+e 2+1k 2+3 3+1u 12+f 36+h7 3+g 2+p " ++
    "6+22 7+7 8+h e+i f+h f+c 2+2 g+1f 15 1w+y 2+1g 8+4 3+x 2 6+1x b+u 1e+t 3+4 c+17 5+p " ++
    "1j+m a+1g 4x+1a i+7 1j+t e+1 b+17 r+z 16+2 b+t 36+3 2+5 2+1 4 u3+3 2d4+1j p+m a+6 2+6 " ++
    "2+6 2+6 2+6 2+6 2+6 2+6 fc 1i 5+2d 9 2+2h 5 6+16 2+2l i+v 1d+f e9+533 1t+g7o 2+vq " ++
    "1w+13 9+7f 5+f b+1 1v 1e+1x 4q 2w 4+6 2+2 2+3 2+m u+1f f+1d 1r+5 4 2+1 c+r b+m q+s " ++
    "8+1a 1a+4 3+8 b+4 2+14 o+2 2+7 l+f 2+5 4 4+1d 2 4+1 3+4 3 2 p+1 4+a 8 f+5 3+5 3+5 a+6 " ++
    "2+6 42+y u+8mb d+m 5+1c 6it+a5 3+2x 1w 2+9 2+c 2+4 2 2+1 2+1 2+2z y+a2 j+1r 3+1h 15+b " ++
    "39+4 2+3q 2y+9 2+18 3+u 4+5 3+5 3+5 3+2 10+b 2+p 2+i 2+1 2+e 3+d z+3e au+s 4+1c 1c+v " ++
    "e+j 2+7 7+11 b+t 3+z 5+7 3l+25 2r+13 9+1f 2l+1f d+8m a+l b+7 49+5 3 2+17 2+1 4 3+m b+m " ++
    "a+u 1u+i 2+1 b+l b+p 7+p 13+1j 7+1 1t g+3 2+2 2+s 17+s 4+s 10+7 2+r s+1h b+l b+i e+h " ++
    "33+20 54+z 13+3 2 8h+15 7+1 h+2 2+1 1l+s b 9+l 17+h 1b+k s+m d+1g 1m+1 3 e+18 x+o r+z " ++
    "u 3 9+y 4 d+1b f+3 m 2 10+h 2+o k+1 1s+6 2 2+3 2+e 2+9 8+1a 13+7 3+1 3+l 2+6 2+1 2+4 4 " ++
    "j d+4 v+9 2 3 2+11 2 q 2 19+1g j+3 l+2 v+1b l+1 2 55+1a 16+3 11+1b l 1o+16 e 20+q 12+6 " ++
    "56+17 5w+7 3 3+7 2+1 2+n g 2 2n+7 3+12 h 2 t b+13 8 m c+19 k j+20 5k+w w+8 2+10 i 1e+t " ++
    "35+6 2+1 2+11 m q+5 2+1 2+v f o+14 2+1 79+i g 2+c 2+x 3h 28+pl 6f+5f 219+2o g+tr i+5 " ++
    "q+32y 6+g6 5a2+t 1cz+fs 8+u i+26 i+t j+1b 1g+k 6+i c4+13 ba+22 6 4w+5p1 16+v 2q+36 " ++
    "6q6+82 g u+2 3 f+3 9+az 1s5+2y 6+c 4+8 8+9 6sx dy+18 y 8y+t j+17 dh+q 6e+t 3 5s+u 2+2 " ++
    "2+1 2+6 3+4 a 6a+6 2+3 2+1 2+e 2+5g 118+3 2+q 2+1 2 3 2+9 2+3 2 2 7 5 2 2 2+2 2+1 2 3 " ++
    "2 2 2 2 2+1 2 3+3 2+6 2+3 2+3 2 2+9 2+g 6+2 2+4 2+g 3et+wyn x+3dp 3+4gd 3+5rk g+h9 " ++
    "1wj+f1 15v+3t6 6+6jt"),
  ("lt titlecaseletter",
    "cl 3 3 13 5ue+7 9+7 9+7 d g 1c"),
  ("lu uppercaseletter",
    "1t+p 2u+m 2+6 y 2 2 2 2 2 2 2 2 2 2 2 2 2 2 2 2 2 2 2 2 2 2 2 2 2 2 2 3 2 2 2 2 2 2 2 " ++
    "3 2 2 2 2 2 2 2 2 2 2 2 2 2 2 2 2 2 2 2 2 2 2 2+1 2 2 4+1 2 2+1 2+2 3+3 2+1 2+2 4+1 " ++
    "2+1 2 2 2+1 2 3 2+1 2+2 2 2+1 4 8 3 3 3 2 2 2 2 2 2 2 3 2 2 2 2 2 2 2 2 3 3 2+2 2 2 2 " ++
    "2 2 2 2 2 2 2 2 2 2 2 2 2 2 2 2 2 2 2 2 2 2 2 2 2 2 8+1 2+1 3 2+3 2 2 2 2 82 2 4 9 7 " ++
    "2+2 2 2+1 2+g 2+8 10 3+2 4 2 2 2 2 2 2 2 2 2 2 2 6 3 2+1 3+1e 1d 2 2 2 2 2 2 2 2 2 2 2 " ++
    "2 2 2 2 2 a 2 2 2 2 2 2 2 2 2 2 2 2 2 2 2 2 2 2 2 2 2 2 2 2 2 2 2+1 2 2 2 2 2 2 3 2 2 " ++
    "2 2 2 2 2 2 2 2 2 2 2 2 2 2 2 2 2 2 2 2 2 2 2 2 2 2 2 2 2 2 2 2 2 2 2 2 2 2 2 2 2 2 2 " ++
    "2 2 3+11 28a+11 2 6 k3+2d 1p0 7+16 3+2 8x 2 2 2 2 2 2 2 2 2 2 2 2 2 2 2 2 2 2 2 2 2 2 " ++
    "2 2 2 2 2 2 2 2 2 2 2 2 2 2 2 2 2 2 2 2 2 2 2 2 2 2 2 2 2 2 2 2 2 2 2 2 2 2 2 2 2 2 2 " ++
    "2 2 2 2 2 2 2 2 2 a 2 2 2 2 2 2 2 2 2 2 2 2 2 2 2 2 2 2 2 2 2 2 2 2 2 2 2 2 2 2 2 2 2 " ++
    "2 2 2 2 2 2 2 2 2 2 2 2 2 2 2 a+7 9+5 b+7 9+7 9+5 c 2 2 2 9+7 21+3 d+3 d+3 d+4 c+3 7b " ++
    "5 4+2 3+2 3 4+4 7 2 2 2+3 3+3 b+1 6 1q 22l+1b 1d 2+2 3 2 2 2+3 2 3 9+2 2 2 2 2 2 2 2 2 " ++
    "2 2 2 2 2 2 2 2 2 2 2 2 2 2 2 2 2 2 2 2 2 2 2 2 2 2 2 2 2 2 2 2 2 2 2 2 2 2 2 2 2 9 2 " ++
    "5 nym 2 2 2 2 2 2 2 2 2 2 2 2 2 2 2 2 2 2 2 2 2 2 k 2 2 2 2 2 2 2 2 2 2 2 2 2 3s 2 2 2 " ++
    "2 2 2 4 2 2 2 2 2 2 2 2 2 2 2 2 2 2 2 2 2 2 2 2 2 2 2 2 2 2 2 2 2 2 b 2 2+1 2 2 2 2 5 " ++
    "2 3 2 4 2 2 2 2 2 2 2 2 2 2+4 2+4 2 2 2 2 2 2 2 2+3 2 2+1 2 2 2 2 2 2 2 2 p h7w+p " ++
    "xy+13 3t+z 4d+a 2+e 2+6 2+1 1d7+1e 4e+l 27v+v gw1+v 1t+o k08+p r+p r+p r 2+1 3 3+1 3+3 " ++
    "2+7 r+p r+1 2+3 3+7 2+6 s+1 2+3 2+4 2 4+6 s+p r+p r+p r+p r+p r+p v+o y+o y+o y+o y+o " ++
    "y 3ee+x"),
  ("m mark combiningmark",
    "lc+33 7o+6 7c+18 2 2+1 2+1 2 21+a 1d+k h 2u+6 3+5 3+1 2+3 10 v+q 2k+a 1n+8 a p+3 2+8 " ++
    "2+2 2+4 18+2 1o+8 17+n 2+w 1j+2 2+h 2+6 b+1 u+2 1l 2+6 3+1 3+2 a b+1 r 3+2 1l 2+4 5+1 " ++
    "3+2 4 v+1 4 c+2 1l 2+7 2+2 2+2 l+1 n+5 2+2 1l 2+6 3+1 3+2 8+2 b+1 v 1o+4 4+2 2+3 a " ++
    "15+4 1k 2+6 2+2 2+3 8+1 c+1 u+2 1l 2+6 2+2 2+3 8+1 c+1 g d+3 1k+1 2+6 2+2 2+3 a b+1 " ++
    "u+2 1z 5+5 2 2+7 j+1 1q 3+6 d+7 2r 3+8 c+6 22+1 s 2 2 5+1 1e+j 2+1 6+a 2+z a 2t+j o+3 " ++
    "5+2 2+2 3+6 4+3 e+b 2 b+3 jk+2 qb+3 t+2 u+1 v+1 1t+v a 1a+2 2 3a+1 z 3b+b 5+b 64+4 " ++
    "1m+9 2+s 3 1d+19 3+b l+4 1c+g 13+8 d+2 v+c 1l+d 1d+j 49+2 2+k 5 7 3+2 5j+1r k1+w 2db+2 " ++
    "3y 2p+v ff+5 2y+1 n9x+3 2+9 x+1 29+1 7l 4 5 o+4 5 2c+1 1f+h r+h e 13+7 q+c 19+3 1c+d " ++
    "11 1w+d d 9+1 1a+2 1f 2+2 3+1 6+1 2 16+4 6+1 6l+7 2+1 fn5 ki+f h+f r2 6b 46+4 1af+2 " ++
    "2+1 6+3 15+2 5 4m+1 fy+3 1u+4 8u+1 26+5 1z+a 1e+3 3f+2 1i+e 16 3+1 b+3 1a+a 8 1q+2 " ++
    "11+d h+1 19 d+2 1d+d 9+3 2+1 2l+b 7 3 4e+b m+3 1k+1 2+6 3+1 3+2 a b+1 3+6 4+4 1w+8 2 3 " ++
    "2+3 2+4 2 f+1 2b+h o 2a+j 6k+6 3+8 s+1 2b+g 2z+c 2u+e 75+e 6u+5 2+1 3+3 2 2+1 3y+6 3+6 " ++
    "4 t+9 15+6 2+3 9 a+a 1b+f 5j+7 5k+7 2+7 2b+l 2+d 3f+5 4 2+1 2+6 2 1v+4 2+1 2+4 9o+3 " ++
    "a+1 2 1d+6 4+4 o 44m 7+e 8uh+h 1xd+4 1o+6 t5 2+1i 8+3 2a c+1 f58+1 3mq+19 3+m f3+4 4+5 " ++
    "9+7 3+6 v+3 45+2 1j0+1i 5+1d 9 f n+4 2+e 11t+6 2+g 3+6 2+1 2+4 2t 4h+6 ag 1q+3 e5+3 " ++
    "73+1 6s 3 8+1 6 d7+6 32+6 gzhy+6n"),
  ("mc spacingmark",
    "1s3 1k 3+2 9+3 2+1 1f+1 1n+2 7+1 3+1 b 18 1n+2 1v 1n+2 9 2+1 1i+1 1n 2 7+1 3+1 b 2v+1 " ++
    "2+1 4+2 2+2 b 16+2 1q+3 1q+1 1n 2+4 3+1 2+1 a+1 t f+1 1n+2 6+2 2+2 b 17+1 24+2 7+7 j+1 " ++
    "97+1 1s 4s+1 5 7 3+1 q+1 b+2 3+6 m+1 3+5 3 b+2 1a1 v 3m 8+7 2+1 9n+3 3+2 5+1 2+5 69+1 " ++
    "1n 2 a 2+1 9+5 42 1d 6 2+4 2+1 1q v 5+1 3 1p 3+2 2 4+1 1d+7 9+1 4s m 3sn+1 np0+1 3 " ++
    "2h+1 1f+f 3z+1 1c 1d+1 5+1 3+2 33+1 3+1 p 1a 2 32 3+1 6 6m+1 2+1 2+1 2 jro 2 3k 1a+2 " ++
    "5+1 38 p+1 1o 1d+2 a+1 e 2m+2 4+1 2 4r+2 w+1 1n+1 2+3 3+1 3+2 a b+1 2d+2 8 3 2+3 2+1 2 " ++
    "2u+2 9+1 4 2z+2 7 2+3 3 6m+2 7+3 3 36+2 9+1 2 32 2+1 7 2w 2+1 5 7a+2 a 6w+5 2+1 5 3 2 " ++
    "3z+2 9+3 5 2d u+1 1r 5m 4 2 5k f 2z 8 3 5y+4 5+1 2 9r+1 d 1d+1 9+1 2 d0p+2 2sl+1i 2x+1 " ++
    "j90+1 7+5"),
  ("me enclosingmark",
    "w8+1 4dx 17j+3 2+2 qdo+2"),
  ("mn nonspacingmark",
    "lc+33 7o+4 7e+18 2 2+1 2+1 2 21+a 1d+k h 2u+6 3+5 3+1 2+3 10 v+q 2k+a 1n+8 a p+3 2+8 " ++
    "2+2 2+4 18+2 1o+8 17+n 2+v 1k 2 5+7 5 4+6 b+1 u 1n 5+3 9 l+1 r 3+1 1m 5+1 5+1 3+2 4 " ++
    "v+1 4 c+1 1m 5+4 2+1 5 l+1 n+5 2 1n 3 2+3 9 8+1 c+1 v 1q d 1f 4 1k 2+2 6+2 2+3 8+1 c+1 " ++
    "u 1n 3 7 6+1 l+1 t+1 1m+1 5+3 9 l+1 u 21 8+2 2 2j 3+6 d+7 2r 3+8 c+6 22+1 s 2 2 1k+d " ++
    "2+4 2+1 6+a 2+z a 2v+3 2+5 2+1 3+1 q+1 5+2 h+3 e 3+1 7 g jk+2 qb+2 u+1 v+1 v+1 1t+1 " ++
    "2+6 9 3+a a 1a+2 2 3a+1 z 3b+2 5+1 a 7+2 64+1 3 1n 2+6 2 2 3+7 7+9 3 1d+d 2+u 3+b l+3 " ++
    "1d 2+4 2 6 15+8 d+1 x+3 3+1 2+2 1l 2+1 4 2+2 1n+7 3+1 49+2 2+c 2+6 5 7 4+1 5j+1r k1+c " ++
    "5 4+b 2db+2 3y 2p+v ff+3 30+1 n9x 5+9 x+1 29+1 7l 4 5 q+1 6 48+1 r+h e 13+7 q+a 1b+2 " ++
    "1d 3+3 3+1 14 1w+5 3+1 3+1 d 9 1c 1g 2+2 3+1 6+1 2 17+1 9 6n 3 5 fn5 ki+f h+f r2 6b " ++
    "46+4 1af+2 2+1 6+3 15+2 5 4m+1 fy+3 1u+4 8u+1 26+5 1z+a 1e+3 3g 1j+e 16 3+1 b+2 1e+3 " ++
    "3+1 8 1q+2 11+4 2+7 1r d+1 1h+8 b+3 3 2o+2 3 2+1 7 3 4e 4+7 m+1 1m+1 4 12+6 4+4 1z+5 e " ++
    "2 2 f+1 2e+7 3+2 2 o 2d+5 2 5+1 2+1 6n+3 7+1 2+1 s+1 2e+7 3 2+1 2z 2 3+5 2 2u 2 3+3 " ++
    "2+4 78+8 2+1 75+1 2 5 41+3 3+1 5 x+9 15+5 3+3 9 a+5 3+2 1b+c 2+1 5j 2+2 2 5m+6 2+5 2 " ++
    "2b+l 3+6 2+1 2+1 3f+5 4 2+1 2+6 2 21+1 4 2 9o+1 c+1 1h+4 6 2 o 44m 7+e 8uh+b 4+2 1xd+4 " ++
    "1o+6 t5 1s+3 2a f5l+1 3mq+19 3+m f5+2 i+7 3+6 v+3 45+2 1j0+1i 5+1d 9 f n+4 2+e 11t+6 " ++
    "2+g 3+6 2+1 2+4 2t 4h+6 ag 1q+3 e5+3 73+1 6s 3 8+1 6 d7+6 32+6 gzhy+6n"),
  ("n number",
    "1c+9 3d+1 6 3+2 142+9 3r+9 5j+9 bh+9 3b+9 5+5 31+9 3b+9 3b+9 3+5 33+c 38+9 9+6 2w+9 " ++
    "2x+6 8+i 32+9 2p+9 3b+9 1z+j 7h+9 1z+9 k0+j oi+2 6o+9 7+9 n+9 8d+9 3l+a 4m+9 7+9 53+9 " ++
    "2f+9 3r+9 7+9 t3 4+5 7+9 5j+1e 3+4 k7+1n 27+l hj+t 12i lm q+8 f+2 9k+3 3v+9 v+7 2+e " ++
    "x+9 14+e msh+9 59+9 8x+5 4b+9 13+9 5j+9 n+9 2f+9 bb+9 gev+9 dq+18 d+1k i+1 9i+q 11+3 u " ++
    "9 3r+4 5n+9 q7+7 q+6 14+8 24+4 n+5 4h+1 3+f 3+19 1t+8 1h+1 v+2 24+4 2x+7 p+7 16+6 97+5 " ++
    "1d+9 7+9 7r+u 4f+9 17+3 35+6 3r+t 3l+9 1p+9 41+9 8+j 70+9 9j+9 3b+9 af+9 2v+9 7+j 25+b " ++
    "bp+i 2m+9 if+9 2f+s 6c+9 1z+9 1j+9 9z+9 2v+k to+32 c02+9 1t3+9 2f+9 3r+9 2+6 en+9 7b+m " ++
    "9q+2 id6+9 153+j d+j 31+o uu+1d 1tt+9 br+9 dz+9 6w+9 jx+8 3l+9 m0+1m 2+2 2+3 25+18 2+e " ++
    "qr+c 25g+9"),
  ("nd decimalnumber digit",
    "1c+9 17r+9 3r+9 5j+9 bh+9 3b+9 3b+9 3b+9 3b+9 3b+9 3b+9 3b+9 3b+9 3b+9 2p+9 3b+9 1z+9 " ++
    "7r+9 1z+9 1fr+9 13+9 8d+9 3l+9 4n+9 7+9 53+9 2f+9 3r+9 7+9 r7r+9 iv+9 13+9 5j+9 n+9 " ++
    "2f+9 bb+9 gev+9 13b+9 1on+9 7+9 m5+9 3l+9 1p+9 41+9 7r+9 9j+9 3b+9 af+9 2v+9 7+j 25+9 " ++
    "br+9 2v+9 if+9 2f+9 6v+9 1z+9 1j+9 9z+9 d07+9 1t3+9 2f+9 3r+9 ev+9 iuv+9 251+1d 1tt+9 " ++
    "br+9 dz+9 6w+9 nq+9 3o7+9"),
  ("nl letternumber",
    "4j2+2 228+y 3+3 2v3 q+8 f+2 nfw+9 hu9+1g ct 9 3r+4 6cr+32 ex2+2"),
  ("no othernumber",
    "4y+1 6 3+2 1ti+5 ah+5 3d+2 3q+6 62+6 i+8 c2+9 ty+j vo+9 dd 1au 4+5 7+9 5j+f 16 k7+1n " ++
    "27+l hj+t 12i wl+3 3v+9 v+7 2+e x+9 14+e n75+5 hjm+18 1u+3 i+1 9i+q 11+3 111+7 q+6 " ++
    "14+8 24+4 n+5 4h+1 3+f 3+19 1t+8 1h+1 v+2 24+4 2x+7 p+7 16+6 97+5 9t+u 4f+9 17+3 35+6 " ++
    "3r+j ak+j 11i+1 bz+8 o8+i no+k ex3+6 m7+m jsa+j d+j 31+o 47j+8 pu+1m 2+2 2+3 25+18 2+e " ++
    "qr+c"),
  ("p punctuation punct",
    "x+2 2+5 2+3 b+1 4+1 r+2 2 s 2 10 6 4 b+1 4 4 jj 9 cz+5 16+1 1g 2 3 3 19+1 l+1 2+1 e " ++
    "2+2 23+3 2v 18+d 6i+2 1j+e w 7a+1 b 3x 3d 3e av d a8 2j b+1 4p+e 2 12+3 20 23+4 5+1 " ++
    "34+5 4s h1+8 48 ha 19+1 27+2 20+1 4e+2 2+2 12+a 8q+1 61+1 3l+6 2+5 4h+1 b+6 t+2 3h+3 " ++
    "1o+4 1r+1 1t+7 c n1+n 9+j 2+c 2+b v+1 f+1 hm+3 u+1 u6+d 28+1 w+9 b8+l 1s+3 x+1 l8+3 " ++
    "2+1 35 40+1a 2+v 3+b bo+2 5+9 3+b h d 2r 2j mwz+1 7i+2 2s b 38+5 al+3 2f+1 15+2 2 1e+1 " ++
    "1c 2q+c h+1 3h+3 3j+1 h+1 6y g2b+1 5t+9 n+y 2+d 2 5 2+1 46+2 2+5 2+3 b+1 4+1 r+2 2 s 2 " ++
    "2+6 bf+2 il 1d bj ko 5k w 7l+8 13 35+6 1v+6 2i+3 cy 8v z 3p+4 19+3 5a+6 32+1 2+3 3j+3 " ++
    "1d+1 28+3 5 e 2+2 2h+5 30 8b+1 2+1 37+4 b+1 2 2x 6z+m 2y+2 t+c 25 3n+2 71 7d+2 4c 2l+7 " ++
    "2c+2 2+4 2m+9 60 2o+4 17+1 hy+1 23+c 4w vl+4 29p+1 bjw+1 3q 1u+4 9 fd+2 88+3 94 f5p " ++
    "5wo+4 29g nz+1"),
  ("pc connectorpunctuation",
    "2n 6ao+1 k 17tr+1 p+2 6o"),
  ("pd dashpunctuation",
    "19 125 1g 2te sm 1l6+5 2rm 3 w+1 5 t cf k 34 14lt+1 12 b 4q 2u9 8v"),
  ("pe closepunctuation",
    "15 1g w 2wu 2 1gf 1wq 1k g hn 2 v u7 2 2 2 2 2 2 29 x 2 2 2 2 b9 2 2 2 2 2 2 2 2 2 2 " ++
    "1t 2 y ti 2 2 2 19 2 2 2 bx 2 2 2 2 4 2 2 2 3+1 14in 62 u 2 2 2 2 2 2 2 4 i 2 2 4r 1g " ++
    "w 3 3"),
  ("pf finalpunctuation",
    "57 672 4 t 2q1 2 5 3 g 4"),
  ("pi initialpunctuation",
    "4r 67h 3+1 3 q 2q1 2 5 3 g 4"),
  ("po otherpunctuation",
    "x+2 2+2 3 2 2+1 b+1 4+1 s 1x 6 f+1 8 jj 9 cz+5 16 1j 3 3 19+1 l+1 2+1 e 2+2 23+3 2v " ++
    "18+d 6i+2 1j+e w 7a+1 b 3x 3d 3e av d a8 2j b+1 4p+e 2 35 23+4 5+1 34+5 4s h1+8 li " ++
    "3h+2 20+1 4e+2 2+2 12+5 2+3 8q+1 61+1 3l+6 2+5 4h+1 b+6 t+2 3h+3 1o+4 1r+1 1t+7 c n7+1 " ++
    "9+7 9+8 3+3 3+2 4+a 2 2+9 2hn+3 2+1 35 40+1 5+2 3 3+8 2+1 2 3+1 b+4 2+9 3+3 2 2+c 3+2 " ++
    "bx+2 1m 5a mwz+1 7i+2 2s b 38+5 al+3 2f+1 15+2 2 1e+1 1c 2q+c h+1 3h+3 3j+1 h+1 6y " ++
    "g85+6 3 n l+1 3+3 4+2 2+3 8+2 7 2+1 46+2 2+2 3 2 2+1 b+1 4+1 s 11 3+1 bf+2 il 1d bj ko " ++
    "5k w 7l+8 13 35+6 1v+6 2i+3 ms 3p+4 19+3 5a+6 32+1 2+3 3j+3 1d+1 28+3 5 e 2+2 2h+5 30 " ++
    "8b+1 2+1 37+4 b+1 2 2x 6z+m 2y+2 t+c 25 3n+2 71 7d+2 4c 2l+7 2c+2 2+4 2m+9 60 2o+4 " ++
    "17+1 hy+1 23+c 4w vl+4 29p+1 bjw+1 3q 1u+4 9 fd+2 88+3 94 f5p 5wo+4 29g nz+1"),
  ("ps openpunctuation",
    "14 1f w 2wv 2 1gf 1vj 4 13 1k g hn 2 v u7 2 2 2 2 2 2 29 x 2 2 2 2 b9 2 2 2 2 2 2 2 2 " ++
    "2 2 1t 2 y ti 2 2 2 q j 2 2 2 bx 2 2 2 2 4 2 2 2 3 14iq 60 u 2 2 2 2 2 2 2 4 i 2 2 4r " ++
    "1f w 4 3"),
  ("s symbol",
    "10 7 h+2 w 2 s 2 10+4 2+1 3 2+3 3 4 v w cr+3 d+d 6+6 2 2+g 3a f+1 35 3w 7f+2 3b+2 3 " ++
    "3+1 5r b k+1 6w 8+1 3t a2+1 7+1 6u 3j 3n+7 3p 5s 16 5i 5e+2 g 2+2 3+5 l 2 2 3q+7 2+5 " ++
    "2+1 6+3 5i+1 kx+9 k4 a6 9x 4e+x 9u+9 a+8 u9 2+2 c+2 e+2 e+2 e+1 1y e 14+2 e+2 k+x 1r+1 " ++
    "2+3 2+1 b 2+2 6+5 2 2 2 5 c+1 5+4 6+3 2 1n+1 5+af 5+s 3+72 n+a 2a+25 n+h3 19+1c 3+u " ++
    "b+b6 n+1q 5+v 3+ad 3+3t 6e+5 9y+1 1b+p 2+2g d+5x r+f 5 e+1 d m+1 7+1 2k+1 6s+1 5+9 " ++
    "x+11 a h+u c+t 9 g+v b+12 g+8v 535+1r h3l+1i fu+m a+1 2w+1 4e+3 b+3 fy+2 6a f+1 fr2 " ++
    "3t+w a6+f 1t+1 1j+7 19+3 2r 2+2 3 4b 7 h+2 w 2 s 2 3m+6 2+6 e+1 8q+8 1m+g 3+2 2+c 4 " ++
    "1c+18 1a3+1 gg jq+1 8y+7 1nr 1p2+s evf+3 6 g2f 31g+6n b+2 4+c3 7+m g+g 2o+37 1p+6t " ++
    "b+12 3+1n 6+2 n+1 8+t 5+1o m+1t 4 57+2e ob q w q w q w q w q 1p+e7 1k+3 1f+7 2+d 2+1 " ++
    "1c9 c0 1wt 4 3i ci+1 7j+17 5+2r d+e 3+e 2+e 2+10 o+4g 1l+s e+17 5+8 8+1 f+5 4b+rc 4+g " ++
    "4+c 4+61 7+b 5 g+b 5+1j 9+9 7+13 9+t 3+b 5+1 f+8 14+9j 9+d 3+c 4+a 4+1k 2 5+f 3+b 5+9 " ++
    "8+42 2+2j b"),
  ("sc currencysymbol",
    "10 3i+3 yy 3g dv+1 dv+1 8 6u 7c g6 1wc 1qd+x qrb gxw 31 4b 64+1 4+1 6bb+3 12jj 1wx"),
  ("sk modifiersymbol",
    "2m 2 20 7 5 4 ei+3 d+d 6+6 2 2+g 3a f+1 zn 4l1 2+2 c+2 e+2 e+2 e+1 3a5+1 ndw+m a+1 " ++
    "2w+1 r5 f+1 fuv+g os 2 4j 1c7s+4"),
  ("sm mathsymbol",
    "17 h+2 1q 2 1a 5 12 w lb eo+2 56k e 14+2 e+2 3w 14+4 7 1x+4 6+1 5 3 3 8 w+1 3 2 w+7f " ++
    "x+1 2j v+o 15+5 d2 a 1j+7 34 9d+4 3+u b+f 75+3m n+1q 5+v 3+75 1d+k 3+5 1525 mx 2+2 4l " ++
    "h+2 1q 2 3o 7+3 2oy+1 1275 1jl q w q w q w q w q 4kt+1 1y7+8"),
  ("so othersymbol",
    "4m 3 5 2 r6 7f+1 3k+1 5r b k+1 6w ec ae 3n+5 2 3p 5s 16 aw+2 g 2+2 3+5 l 2 2 3q+7 2+5 " ++
    "2+1 6+3 5i+1 kx+9 k4 k3 4e+x 9u+9 a+8 138+1 2+3 2+1 b 2+1 7+5 2 2 2 5 c+1 f 2+1 2 1n+1 " ++
    "a+4 3+3 2+1 2+1 2+6 2+u 3+1 2 2+u 7h+7 5+j 3+6 3+28 2+t q+13 7+1z n+a 2a+25 n+52 2+8 " ++
    "2+1h 9+32 2+6v 19+17 1t+73 e9+1b m+1 7+12 3+3t 6e+5 9y+1 1b+p 2+2g d+5x r+f 5 e+1 d " ++
    "m+1 7+1 9d+1 5+9 x+11 a h+u c+t 9 g+v b+12 g+8v 535+1r h3l+1i o2+3 b+1 2 fy+2 g22+f " ++
    "a6+f 1t+1 1j+7 1a+2 dh 4 5+1 e+1 8q+8 1m+g 3+2 2+c 4 1c+18 1a3+1 gg sp+7 1nr 1p2+7 5+g " ++
    "evf+3 6 g2f 31g+6n b+2 4+c3 7+m g+f 2p+37 1p+6t b+12 3+1n 6+2 n+1 8+t 5+1o m+1t 4 " ++
    "57+2e x6+e7 1k+3 1f+7 2+d 2+1 1c9 28t 3m k2+17 5+2r d+e 3+e 2+e 2+10 o+4g 1l+s e+17 " ++
    "5+8 8+1 f+5 4b+6y 6+k8 4+g 4+c 4+61 7+b 5 g+b 5+1j 9+9 7+13 9+t 3+b 5+1 1r+9j 9+d 3+c " ++
    "4+a 4+1k 2 5+f 3+b 5+9 8+42 2+2j b"),
  ("z separator",
    "w 3k 4bk 1vk+a u+1 6 1c 335"),
  ("zl lineseparator",
    "6co"),
  ("zp paragraphseparator",
    "6cp"),
  ("zs spaceseparator",
    "w 3k 4bk 1vk+a 11 1c 335")]

/-- Scripts. -/
def scripts : List (String × String) := [
  ("adlm adlam",
    "2olc+23 5+9 5+1"),
  ("aghb caucasianalbanian",
    "1flc+1f c"),
  ("ahom",
    "1j40+q 3+e 5+m"),
  ("arab arabic",
    "16o+4 2+5 2+d 2+2 2+v 2+9 c+p 2+2z 2+x 29+1b 6p+x 6+22 2+s 1bv5+dp 3+3z x+f 35+4 2+3q " ++
    "31g+u 1w+5 9+8 y+5 181t+3 2+q 2+1 2 3 2+9 2+3 2 2 7 5 2 2 2+2 2+1 2 3 2 2 2 2 2+1 2 " ++
    "3+3 2+6 2+3 2+3 2 2+9 2+g 6+2 2+4 2+g 1h+1"),
  ("armi imperialaramaic",
    "1g74+l 2+8"),
  ("armn armenian",
    "10x+11 3+1d 3+2 1chw+4"),
  ("avst avestan",
    "1gqo+1h 4+6"),
  ("bali balinese",
    "5c0+24 2+1d"),
  ("bamu bamum",
    "www+2f 124p+fs"),
  ("bass bassavah",
    "1zo0+t 3+5"),
  ("batk batak",
    "5hc+1f 9+3"),
  ("beng bengali",
    "1vk+3 2+7 3+1 3+l 2+6 2 4+3 3+8 3+1 3+3 9 5+1 2+4 3+o"),
  ("bhks bhaiksuki",
    "1k3k+8 2+18 2+d b+s"),
  ("bopo bopomofo",
    "kq+1 93u+16 35+v"),
  ("brah brahmi",
    "1hq8+25 5+z a"),
  ("brai braille",
    "7wg+73"),
  ("bugi buginese",
    "54w+r 3+1"),
  ("buhd buhid",
    "4lc+j"),
  ("cakm chakma",
    "1hxc+1g 2+h"),
  ("cans canadianaboriginal",
    "3y8+hr fl+1x 1ewr+f"),
  ("cari carian",
    "1f34+1c"),
  ("cham",
    "xkw+1i a+d 3+9 3+3"),
  ("cher cherokee",
    "3vk+2d 3+5 twz+27"),
  ("chrs chorasmian",
    "1ho0+r"),
  ("copt coptic qaac",
    "rm+d 80h+37 6+6"),
  ("cpmn cyprominoan",
    "1nyo+2q"),
  ("cprt cypriot",
    "1g5c+5 3 2+17 2+1 4 3"),
  ("cyrl cyrillic",
    "sg+3o 3+4o 4lt+a 4h 25 38o+v nr5+2n han+1 18n5+1p y"),
  ("deva devanagari",
    "1s0+28 5+e 3+p vhd+v mip+9"),
  ("diak divesakuru",
    "1ji8+6 3 3+7 2+1 2+t 2+1 3+b a+9"),
  ("dogr dogra",
    "1jb4+1n"),
  ("dsrt deseret",
    "1fcw+27"),
  ("dupl duployan",
    "2fpc+2y 6+c 4+8 8+9 3+3"),
  ("egyp egyptianhieroglyphs",
    "1o1s+ut b+32y"),
  ("elba elbasan",
    "1fk0+13"),
  ("elym elymaic",
    "1hpc+m"),
  ("ethi ethiopic",
    "3k0+20 2+3 3+6 2 2+3 3+14 2+3 3+w 2+3 3+6 2 2+3 3+e 2+1k 2+3 3+1u 3+v 4+p 547+m a+6 " ++
    "2+6 2+6 2+6 2+6 2+6 2+6 2+6 opv+5 3+5 3+5 a+6 2+6 1qk2+6 2+3 2+1 2+e"),
  ("geor georgian",
    "3a8+11 2 6 3+16 2+3 2a9+16 3+2 37l+11 2 6"),
  ("glag glagolitic",
    "8ow+2n 2e1t+6 2+g 3+6 2+1 2+4"),
  ("gong gunjalagondi",
    "1kdc+5 2+1 2+10 2+1 2+5 8+9"),
  ("gonm masaramgondi",
    "1kao+6 2+1 2+17 4 2+1 2+8 9+9"),
  ("goth gothic",
    "1f74+q"),
  ("gran grantha",
    "1ibk+3 2+7 3+1 3+l 2+6 2+1 2+4 3+8 3+1 3+2 3 7 6+6 3+6 4+4"),
  ("grek greek",
    "og+3 2+2 3+3 2 5 2 2+2 2 2+j 2+1q f+f 4yv+4 1f+4 5+4 2d 8x+l 3+5 3+11 3+5 3+7 2 2 2 " ++
    "2+u 3+1g 2+e 2+d 3+5 2+i 3+2 2+8 88 rb3 gyj+26 i 155s+1x"),
  ("gujr gujarati",
    "22p+2 2+8 2+2 2+l 2+6 2+1 2+4 3+9 2+2 2+2 3 g+3 3+b 8+6"),
  ("guru gurmukhi",
    "1z5+2 2+5 5+1 3+l 2+6 2+1 2+1 2+1 3 2+4 5+1 3+2 4 8+3 2 8+g"),
  ("hang hangul",
    "3cw+73 5yn+1 76+2l 36+u 1u+u nhe+s hw+8mb d+m 5+1c 7tx+u 4+5 3+5 3+5 3+2"),
  ("hani han",
    "96o+p 2+2g d+5x 1c 2 q+8 f+3 qt+533 1t+g73 hkx+a5 3+2x n49+1 d+6 sga+wyn x+3dp 3+4gd " ++
    "3+5rk g+h9 1wj+f1 15v+3t6 6+6jt"),
  ("hano hanunoo",
    "4kg+k"),
  ("hatr hatran",
    "1gbk+i 2+1 6+4"),
  ("hebr hebrew",
    "13l+1i 9+q 5+5 1cfd+p 2+4 2 2+1 2+1 2+9"),
  ("hira hiragana",
    "9j5+2d 7+2 23qa+7y j u+2 cry"),
  ("hluw anatolianhieroglyphs",
    "1s00+g6"),
  ("hmng pahawhhmong",
    "1zpc+1x b+9 2+6 2+k 6+i"),
  ("hmnp nyiakengpuachuehmong",
    "2n0g+18 4+d 3+9 5+1"),
  ("hung oldhungarian",
    "1h1c+1e e+1e 8+5"),
  ("ital olditalic",
    "1f5s+z a+2"),
  ("java javanese",
    "xhc+25 3+9 5+1"),
  ("kali kayahli",
    "xds+19 2"),
  ("kana katakana",
    "9lt+2h 3+2 6p+f 5t+1a 2+2f 14b3+9 2+18 ytv+3 2+6 2+1 2 80+2 1f f+3"),
  ("kawi",
    "1kow+g 2+14 4+s"),
  ("khar kharoshthi",
    "1gjk+3 2+1 6+7 2+2 2+s 3+2 5+9 8+8"),
  ("khmr khmer",
    "4n4+2l 3+9 7+9 dj+v"),
  ("khoj khojki",
    "1i4g+h 2+1a"),
  ("kits khitansmallscript",
    "20o4 5cs+d1 16"),
  ("knda kannada",
    "2gw+c 2+2 2+m 2+9 2+4 3+8 2+2 2+3 8+1 6+2 2+3 3+9 2+2"),
  ("kthi kaithi",
    "1hts+1u b"),
  ("lana taitham",
    "55s+1q 2+s 3+a 7+9 7+d"),
  ("laoo lao",
    "2v5+1 2 2+4 2+n 2 2+m 3+4 2 2+6 2+9 3+3"),
  ("latn latin",
    "1t+p 7+p 1c g 6+m 2+u 2+cg 14+4 55o+11 7+1c 6+3 6+c 2+1x 1u+73 aa e h+c 3y+1 7 s i+14 " ++
    "254+v o83+2t 4+29 l+e mp+16 2+8 2+3 fpz+6 t7+p 7+p 1ly+5 2+15 2+8 16iu+u 7+5"),
  ("lepc lepcha",
    "5j4+1j 4+e 4+2"),
  ("limb limbu",
    "4xs+u 2+b 5+b 5 4+b"),
  ("lina lineara",
    "1fr4+8m a+l b+7"),
  ("linb linearb",
    "1ekg+b 2+p 2+i 2+1 2+e 3+d z+3e"),
  ("lisu",
    "wk0+1b o8h"),
  ("lyci lycian",
    "1f28+s"),
  ("lydi lydian",
    "1gdc+p 6"),
  ("mahj mahajani",
    "1hzk+12"),
  ("maka makasar",
    "1ko0+o"),
  ("mand mandaic",
    "1mo+r 3"),
  ("mani manichaean",
    "1gow+12 5+b"),
  ("marc marchen",
    "1k6o+v 3+l 2+d"),
  ("medf medefaidrin",
    "20cg+2i"),
  ("mend mendekikakui",
    "2oe8+5g 3+f"),
  ("merc meroiticcursive",
    "1ggw+n 5+j 3+19"),
  ("mero meroitichieroglyphs",
    "1gg0+v"),
  ("mlym malayalam",
    "2kg+c 2+2 2+1e 2+2 2+5 5+f 3+p"),
  ("modi",
    "1iww+1w c+9"),
  ("mong mongolian",
    "4qo+1 3 2+j 7+2g 8+16 1e46+c"),
  ("mroo mro",
    "1zk0+u 2+9 5+1"),
  ("mtei meeteimayek",
    "xr4+m 5m+19 3+9"),
  ("mult multani",
    "1i80+6 2 2+3 2+e 2+a"),
  ("mymr myanmar",
    "35s+4f u9t+u 2q+v le9+j"),
  ("nagm nagmundari",
    "2nrk+15"),
  ("nand nandinagari",
    "1jmo+7 3+19 3+a"),
  ("narb oldnortharabian",
    "1gn4+v"),
  ("nbat nabataean",
    "1g8w+u 9+8"),
  ("newa",
    "1iio+2j 2+4"),
  ("nkoo nko",
    "1j4+1m 3+2"),
  ("nshu nushu",
    "20o1 cy7+az"),
  ("ogam ogham",
    "4g0+s"),
  ("olck olchiki",
    "5lc+1b"),
  ("orkh oldturkic",
    "1gxs+20"),
  ("orya oriya",
    "269+2 2+7 3+1 3+l 2+6 2+1 2+4 3+8 3+1 3+2 8+2 5+1 2+4 3+h"),
  ("osge osage",
    "1fhs+z 5+z"),
  ("osma osmanya",
    "1fgg+t 3+9"),
  ("ougr olduyghur",
    "1hm8+p"),
  ("palm palmyrene",
    "1g80+v"),
  ("pauc paucinhau",
    "1juo+1k"),
  ("perm oldpermic",
    "1f80+16"),
  ("phag phagspa",
    "x8g+1j"),
  ("phli inscriptionalpahlavi",
    "1gtc+i 6+7"),
  ("phlp psalterpahlavi",
    "1gu8+h 8+3 d+6"),
  ("phnx phoenician",
    "1gcg+r 4"),
  ("plrd miao",
    "20hs+22 5+1k 8+g"),
  ("prti inscriptionalparthian",
    "1gsg+l 3+7"),
  ("rjng rejang",
    "xf4+z c"),
  ("rohg hanifirohingya",
    "1h4w+13 9+9"),
  ("runr runic",
    "4gw+22 4+a"),
  ("samr samaritan",
    "1kw+19 3+e"),
  ("sarb oldsoutharabian",
    "1gm8+v"),
  ("saur saurashtra",
    "xa8+1x 9+b"),
  ("sgnw signwriting",
    "2l8g+i3 g+4 2+e"),
  ("shaw shavian",
    "1ff4+1b"),
  ("shrd sharada",
    "1i0w+2n 1vl+7"),
  ("sidd siddham",
    "1itc+1h 3+11"),
  ("sind khudawadi",
    "1i9c+1m 6+9"),
  ("sinh sinhala",
    "2o1+2 2+h 4+n 2+8 2 3+6 4 5+5 2 2+7 7+9 3+2 1fcd+j"),
  ("sogd sogdian",
    "1hkg+15"),
  ("sogo oldsogdian",
    "1hj4+13"),
  ("sora sorasompeng",
    "1hw0+o 8+9"),
  ("soyo soyombo",
    "1jrk+2a"),
  ("sund sundanese",
    "5fk+1r 75+7"),
  ("sylo sylotinagri",
    "x6o+18"),
  ("syrc syriac",
    "1ds+d 2+1n 3+2 7l+a"),
  ("tagb tagbanwa",
    "4m8+c 2+2 2+1"),
  ("takr takri",
    "1j0g+1l 7+9"),
  ("tale taile",
    "500+t 3+4"),
  ("talu newtailue",
    "51c+17 5+p 7+a 4+1"),
  ("taml tamil",
    "29u+1 2+5 4+2 2+3 4+1 2 2+1 4+1 4+2 4+b 5+4 4+2 2+3 3 7 f+k 1ih2+1d e"),
  ("tang tangut",
    "20o0 w+5bz e9+u 2q+36"),
  ("tavt taiviet",
    "xog+1u p+4"),
  ("telu telugu",
    "2dc+c 2+2 2+m 2+f 3+8 2+2 2+3 8+1 2+2 2+1 3+3 3+9 8+8"),
  ("tfng tifinagh",
    "8xc+1j 8+1 f"),
  ("tglg tagalog",
    "4jk+l a"),
  ("thaa thaana",
    "1hc+1d"),
  ("thai",
    "2rl+1l 6+r"),
  ("tibt tibetan",
    "2yo+1z 2+z 5+12 2+z 2+e 2+6 5+1"),
  ("tirh tirhuta",
    "1im8+1z 9+9"),
  ("tnsa tangsa",
    "1zlc+26 2+9"),
  ("toto",
    "2nbk+u"),
  ("ugar ugaritic",
    "1f9c+t 2"),
  ("vaii vai",
    "wlc+8b"),
  ("vith vithkuqi",
    "1fn4+a 2+e 2+6 2+1 2+a 2+e 2+6 2+1"),
  ("wara warangciti",
    "1jfk+2a d"),
  ("wcho wancho",
    "2ncw+1l 6"),
  ("xpeo oldpersian",
    "1fa8+z 5+d"),
  ("xsux cuneiform",
    "1kw0+pl 2v+32 2+4 c+5f"),
  ("yezi yezidi",
    "1hfk+15 2+2 3+1"),
  ("yiii yi",
    "vls+wc 4+1i"),
  ("zanb zanabazarsquare",
    "1jpc+1z"),
  ("zinh inherited qaai",
    "lc+33 7q+1 cl+a r kh+3 3fg+19 3+b dh+2 2+c 2+6 5 7 4+1 5j+1r el+1 5f+w 30a+3 30+1 " ++
    "14km+f h+d r4 6b 38b 1139+19 3+m f5+2 i+7 3+6 v+3 h45v+6n"),
  ("zyyy common",
    "0+1s r+5 r+1a 2+e 2+4 o w ci+12 6+4 3+j 39 a 7 2 hq 7 f 4 x 4d ed 3m+1 yi ba+3 83 " ++
    "168+2 20+1 5o+1 2 y6 e 8+3 2+5 2+2 3 li+b 3+2e 2+a 4+a 2+e i+x 1r+11 2+2 3+5 2+q 2+g " ++
    "16+2 5+ih n+a m+pr 75+hf 3+3t e9+2l b7+k 2 2+o g+7 5+3 2k+1 4 2j+1 44+f x+11 a 1d+1r " ++
    "w+28 1c 2h+4n 535+1r hkx+x 2v+2 4m+9 6t 4h b0 f+1 g5v+1 5t+9 n+y 2+i 2+3 44 2+v r+5 " ++
    "r+a b 1a+1 1t+6 2+6 b+4 77+2 5+18 4+8 29+c 1g+18 6d+q 10o5+3 319+70 4+c3 7+m g+g 2o+37 " ++
    "1p+6t b+12 3+1p 4+g 9+1 8+t 5+1o 5y+j d+j d+2e a+o 3s+2c 2+1y 2+1 3 3+1 3+3 2+b 2 2+6 " ++
    "2+1s 2+3 3+7 2+6 2+r 2+3 2+4 2 4+6 2+9f 3+83 3+1d 41e+1v 25+1o jn+17 5+2r d+e 3+e 2+e " ++
    "2+10 b+4t 1l+p 2+1 e+17 5+8 8+1 f+5 4b+rc 4+g 4+c 4+61 7+b 5 g+b 5+1j 9+9 7+13 9+t 3+b " ++
    "5+1 f+8 14+9j 9+d 3+c 4+a 4+1k 2 5+f 3+b 5+9 8+42 2+2u gvlz v+2n"),
  ("gara garay",
    "1h6o+11 4+s 9+1"),
  ("gukh gurungkhema",
    "1xq8+1l"),
  ("krai kiratrai",
    "205c+1l"),
  ("onao olonal",
    "2nyo+16 5"),
  ("sunu sunuwar",
    "1k1s+x f+9"),
  ("todr todhri",
    "1fpc+1f"),
  ("tutg tulutigalari",
    "1if4+9 2 3 2+11 2+9 2 3 2+3 2+9 2+1 9+1")]

/-- Binary properties. -/
def binary : List (String × String) := [
  ("alpha alphabetic",
    "1t+p 7+p 1c b 5 6+m 2+u 2+cp 5+b f+4 8 2 2f u+h 2+1 3+3 2 7 2+2 2 2+j 2+2a 2+3u 9+4l " ++
    "2+11 3 7+14 14+d 2 2+1 2+1 2 9+q 5+3 u+a 6+1j 2+6 f+2t 2+7 5+7 5+2 b+2 3 h+1b e+2s p+w " ++
    "a+1 5 6+n 3+i k+o 8+a 6+n 2+6 8 9+15 b+b 4+6 7+23 2+f 2+2 5+e e+i 2+7 3+1 3+l 2+6 2 " ++
    "4+3 4+7 3+1 3+1 2 9 5+1 2+4 d+1 b 5+2 2+5 5+1 3+l 2+6 2+1 2+1 2+1 5+4 5+1 3+1 5 8+3 2 " ++
    "i+5 c+2 2+8 2+2 2+l 2+6 2+1 2+4 4+8 2+2 2+1 4 g+3 m+3 5+2 2+7 3+1 3+l 2+6 2+1 2+4 4+7 " ++
    "3+1 3+1 a+1 5+1 2+4 e h+1 2+5 4+2 2+3 4+1 2 2+1 4+1 4+2 4+b 5+4 4+2 2+2 4 7 15+c 2+2 " ++
    "2+m 2+f 4+7 2+2 2+2 9+1 2+2 2+1 3+3 t+3 2+7 2+2 2+m 2+9 2+4 4+7 2+2 2+2 9+1 6+2 2+3 " ++
    "e+2 d+c 2+2 2+14 3+7 2+2 2+2 2 6+3 8+4 n+5 2+2 2+h 4+n 2+8 2 3+6 9+5 2 2+7 j+1 e+1l " ++
    "6+6 7 1g+1 2 2+4 2+n 2 2+i 2+2 3+4 2 7 f+3 x 1s+7 2+z 5+i 5+f 2+z 1w+1i 2 3+4 h+1r b+3 " ++
    "3+11 2 6 3+16 2+98 2+3 3+6 2 2+3 3+14 2+3 3+w 2+3 3+6 2 2+3 3+e 2+1k 2+3 3+1u 12+f " ++
    "h+2d 3+5 4+h7 3+g 2+p 6+22 4+a 8+j c+k d+j d+c 2+2 2+1 d+1f 3+i f 5 1w+2g 8+16 6+1x " ++
    "b+u 2+b 5+8 o+t 3+4 c+17 5+p 1j+r 5+1q 3+j 1f o+1 c+2 1e+1f 2+e 2+7 1g+15 3+3 b+17 2+a " ++
    "f+1i n+2 b+z 3+a 6+16 3+2 16+3 2+5 2+1 4 6+5b k+x c+7p 3+5 3+11 3+5 3+7 2 2 2 2+u 3+1g " ++
    "2+6 2 4+2 2+6 4+3 3+5 5+c 6+2 2+6 39 e h+c 2u 5 3+9 2 4+4 7 2 2 2+3 2+a 3+3 6+4 5 i+14 " ++
    "mm+1f 1ef+6c 7+3 4+1 d+11 2 6 3+1j 8 h+m a+6 2+6 2+6 2+6 2+6 2+6 2+6 2+6 2+v 1c d2+2 " ++
    "q+8 8+4 3+4 5+2d 7+2 2+2h 2+3 6+16 2+2l i+v 1d+f e9+533 1t+h3g 1w+19 3+7g 4+f b+1 l+1a " ++
    "6+7 4+34 14+8 3+2u 3+29 l+k 2+w p+1f d+1v 2 19+5 4 2+2 b+w 6+y e+s 4+1e 2+b g h+f b+4 " ++
    "2+1i a+d j+m 4+1w 2 2 p+2 3+f 3+3 c+5 3+5 3+5 a+6 2+6 2+16 2+d 7+3e m+8mb d+m 5+1c " ++
    "6it+a5 3+2x 13+6 d+4 6+b 2+c 2+4 2 2+1 2+1 2+2z y+a2 j+1r 3+1h 15+b 39+4 2+3q 11+p 7+p " ++
    "c+2g 4+5 3+5 3+5 3+2 10+b 2+p 2+i 2+1 2+e 3+d z+3e 1y+1g 7g+s 4+1c 1c+v e+t 6+16 6+t " ++
    "3+z 5+7 2+4 17+4d j+z 5+z 5+13 9+1f d+a 2+e 2+6 2+1 2+a 2+e 2+6 2+1 4+1f d+8m a+l b+7 " ++
    "p+5 2+15 2+8 1y+5 3 2+17 2+1 4 3+m b+m a+u 1u+i 2+1 b+l b+p 7+p 13+1j 7+1 1t+3 2+1 6+7 " ++
    "2+2 2+s 17+s 4+s 10+7 2+r s+1h b+l b+i e+h 33+20 1k+1e e+1e e+13 z+r 4 6+m 6z+15 2+1 " ++
    "4+1 h+5 1f+2 4+s b 9+l 17+h 1b+k s+m a+1x 18+4 b+1k a e+o o+1e i+3 9+y 4 a+1r 2+3 a+1 " ++
    "b 2 10+h 2+x 3 7+3 1r+6 2 2+3 2+e 2+9 8+1k o+3 2+7 3+1 3+l 2+6 2+1 2+4 4+7 3+1 3+1 4 7 " ++
    "6+6 t+9 2 3 2+11 2+9 2 3 2+3 2+1 4 2 19+1t 2+2 2+3 l+2 v+1t 3+1 2 55+1h 3+6 q+5 z+1q 2 " ++
    "4 1o+1h 3 20+q 3+d m+6 56+1k 2w+1r w+7 3 3+7 2+1 2+t 2+1 3+1 3+3 2m+7 3+19 3+5 2 2+1 " ++
    "s+1e 3+9 i+1z 6 j+20 2w+7 2h+w w+8 2+18 2+6 2 1e+t 3+l 2+d 22+6 2+1 2+17 4 2+1 2+2 2 " ++
    "3+1 p+5 2+1 2+10 2+1 2+3 2 o+17 79+m a+g 2+14 4+2 34 28+pl 2v+32 i+5f 219+2o g+tr i+5 " ++
    "q+32y 6+g6 5a2+1a 1ci+fs 8+u i+26 i+t j+1b h+3 w+k 6+i c1+18 5w+1r x+o 3+o 19+22 5+1k " ++
    "8+g 1t+1 2 d+6 a+5p1 16+v 2q+36 6pq+3 2+6 2+1 2+82 g u+2 3 f+3 9+az 1s5+2y 6+c 4+8 8+9 " ++
    "5 4ma+2c 2+1y 2+1 3 3+1 3+3 2+b 2 2+6 2+1s 2+3 3+7 2+6 2+r 2+3 2+4 2 4+6 2+9f 3+o 2+o " ++
    "2+u 2+o 2+u 2+o 2+u 2+o 2+u 2+o 2+7 1f9+u 7+5 5y+6 2+g 3+6 2+1 2+4 6+1p y 35+18 b+6 h " ++
    "8y+t j+17 dh+r 6d+t 3 5s+u 2+l 9+1 69+6 2+3 2+1 2+e 2+5g 1o+1v 4 4 xh+3 2+q 2+1 2 3 " ++
    "2+9 2+3 2 2 7 5 2 2 2+2 2+1 2 3 2 2 2 2 2+1 2 3+3 2+6 2+3 2+3 2 2+9 2+g 6+2 2+4 2+g " ++
    "hh+p 7+p 7+p 2uv+wyn x+3dp 3+4gd 3+5rk g+h9 1wj+f1 15v+3t6 6+6jt"),
  ("ahex asciihexdigit",
    "1c+9 8+5 r+5"),
  ("bidic bidicontrol",
    "17g 54i+1 r+4 1k+3"),
  ("ci caseignorable",
    "13 7 c 10 2 20 5 2 5 3+1 e0+5b 5+1 5 a+1 2 70+6 5s 6 1e+18 2 2+1 2+1 2 19 c+5 b+a 2 10 " ++
    "b+k h 2u+7 2+9 2+3 y 2 v+q 2k+a 1n+a 5 3 p+n 18+2 19 8+1 6+8 16+1l 1k 2 5+7 5 4+6 b+1 " ++
    "e g 1n 5+3 9 l+1 r 3+1 1m 5+1 5+1 3+2 4 v+1 4 c+1 1m 5+4 2+1 5 l+1 n+5 2 1n 3 2+3 9 " ++
    "8+1 c+1 v 1q d 1f 4 1k 2+2 6+2 2+3 8+1 c+1 u 1n 3 7 6+1 l+1 t+1 1m+1 5+3 9 l+1 u 21 " ++
    "8+2 2 2j 3+6 c+8 2r 3+8 a 2+6 22+1 s 2 2 1k+d 2+4 2+1 6+a 2+z a 2v+3 2+5 2+1 3+1 q+1 " ++
    "5+2 h+3 e 3+1 7 g 2n gx+2 qb+2 u+1 v+1 v+1 1t+1 2+6 9 3+a 4 6 1a+4 1g 1u+1 z 3b+2 5+1 " ++
    "a 7+2 64+1 3 1n 2+6 2 2 3+7 7+9 3 14 9+19 3+b l+3 1d 2+4 2 6 15+8 d+1 x+3 3+1 2+2 1l " ++
    "2+1 4 2+2 1n+7 3+1 1t+5 2b+2 2+c 2+6 5 7 4+1 1f+1q e z+2s ce 2+2 c+2 e+2 e+2 e+1 d+4 " ++
    "9+1 b 3 3+4 1e+4 2+9 2 e h+c 1g+w 2a4+1 36+2 3i g 2p+v 1c d2 11+3 4+4 6 2m+5 2m+2 lxz " ++
    "yr+5 7j 2r+3 2+9 2 t+3 29+1 f+x 27 o+2 2v+3 4+1 9 4 5 q+1 6 48+1 r+h e 13+7 q+a 1b+2 " ++
    "1d 3+3 3+1 i m+1 1v+5 3+1 3+1 d 9 10 c 1g 2+2 3+1 6+1 2 s f+1 6+1 2 2t+4 a+2 3e 3 5 " ++
    "fn5 44+g fy+f 4 d+f z 3 4q 8 7 c 10 2 1c 1a+1 1w m+2 ea 6b 46+4 sm+5 2+15 2+8 g7+2 2+1 " ++
    "6+3 15+2 5 4m+1 fy+3 13 r+4 2 8s+1 p 1h+5 1z+a 1e+3 3g 1j+e 16 3+1 b+2 1e+3 3+1 3 5 b " ++
    "1f+2 11+4 2+7 1r d+1 1h+8 b+3 3 2o+2 3 2+1 7 3 4e 4+7 m+1 1m+1 4 12+6 4+4 1z+5 e 2 2 " ++
    "f+1 2e+7 3+2 2 o 2d+5 2 5+1 2+1 6n+3 7+1 2+1 s+1 2e+7 3 2+1 2z 2 3+5 2 2u 2 3+3 2+4 " ++
    "78+8 2+1 75+1 2 5 41+3 3+1 5 x+9 15+5 3+3 9 a+5 3+2 1b+c 2+1 5j 2+2 2 5m+6 2+5 2 2b+l " ++
    "3+6 2+1 2+1 3f+5 4 2+1 2+6 2 21+1 4 2 1u 7u+1 c+1 1h+4 6 2 o 446+g 7+e 8uh+b 4+2 1xd+4 " ++
    "1o+6 a+3 e5+2 15+1 df 1s+g 1t+1 2+1 e+1 cn1+3 2+6 2+1 2hr+1 2+3 3ml+19 3+m f5+2 a+f " ++
    "3+6 v+3 45+2 1j0+1i 5+1d 9 f n+4 2+e 11t+6 2+g 3+6 2+1 2+4 6+1p y 4h+d a9 1q+3 e4+4 " ++
    "73+1 6s 3 8+1 6 a cx+6 32+7 240+4 gx6q v+2n 3l+6n"),
  ("cased",
    "1t+p 7+p 1c b 5 6+m 2+u 2+5e 2+3 5+5r 3+y 8+1 v+4 2p 17+3 3+1 3+3 2 7 2+2 2 2+j 2+2a " ++
    "2+3u 9+4l 2+11 a+14 26w+11 2 6 3+16 2+3 ip+2d 3+5 1oj+a 6+16 3+2 1t+5b 1t+7p 3+5 3+11 " ++
    "3+5 3+7 2 2 2 2+u 3+1g 2+6 2 4+2 2+6 4+3 3+5 5+c 6+2 2+6 39 e h+c 2u 5 3+9 2 4+4 7 2 2 " ++
    "2+3 2+5 5 3+3 6+4 5 i+v 4+1 mq+1f 1ef+6c 7+3 4+1 d+11 2 6 nwz+19 j+t 3p+2t 4+3 2+24 " ++
    "l+5 2+2 mu+16 2+d 7+27 fnl+6 d+4 sq+p 7+p x2+27 2p+z 5+z 39+a 2+e 2+6 2+1 2+a 2+e 2+6 " ++
    "2+1 ck 3+2 2+15 2+8 xy+1e e+1e 2m+l b+l 26z+1r gv5+1r x+o 3+o jzh+2c 2+1y 2+1 3 3+1 " ++
    "3+3 2+b 2 2+6 2+1s 2+3 3+7 2+6 2+r 2+3 2+4 2 4+6 2+9f 3+o 2+o 2+u 2+o 2+u 2+o 2+u 2+o " ++
    "2+u 2+o 2+7 1f9+9 2+j 7+5 7a+1p 1oz+1v 1kd+p 7+p 7+p"),
  ("dash",
    "19 125 1g 2te sm 1l6+5 1q 14 g av 2dh 3 w+1 5 t cf k 34 14lt+1 12 b 4q 2u9 8v"),
  ("di defaultignorablecodepoint",
    "4t iq jx 283+1 190+1 2e+4 1ks+4 r+4 1e+f 3cl 14f0+f 6o 4h 28+8 119k+3 440+7 h406+35r"),
  ("dep deprecated",
    "95 10q 1s4 2 1m2+1 1qe+5 je+1 jh07"),
  ("dia diacritic",
    "2m 2 20 7 5 3+1 e0+4e 2+7 6+5 i+1 5 a+1 72+4 5u 1k+18 2 2+1 2+1 2 3o+7 5+1 3r+1 5+1 " ++
    "4+2 1w+q 2k+a 1n+a z+1 3j+7 16+9 h+r 1q h 4+3 t 23 h 33 h 33 h 1c+2 1p h 8 3c 33 h 33 " ++
    "h 32+1 h 3h 34 d+5 2 30 e+4 24+1 s 2 2 5+1 1v+2 2+1 1r 35 2+1 15+1 5+4 q+6 2 b+1 jm+2 " ++
    "qd+1 v 45+a a 9o+2 85 l+7 3 1d+e 3+a 4+e 3+b 21 g 13+8 1j+1 1n c+1 1v+1 1t+5 2b+o 5 7 " ++
    "3+2 1f+1q 1d+z 6+b 12+a ce 2+2 c+2 e+2 e+2 e+1 2k1+2 8u e3+5 2y+3 2o n77 d+1 2 t+1 " ++
    "2b+1 f+x 2v+2 2v 7+1 d 12 48 s+h 1m+3 11 2o d 11 46+2 1u+3 1g 2t+4 a+2 3l+1 fn5 le+f " ++
    "7j 2 1c 1a+1 1w l9 ww+5 2+15 2+8 hq+2 5 4m+1 fw+5 13 r+4 b1 3+2 1z+a 1e+3 5d 16 21+1 " ++
    "3d+1 1r 25 a+2 2x+1 4z+1 29+1 h p+6 4+4 2i+2 2+1 e+1 2o 4 3g+1 70+1 3j 3b+1 38 7i+1 " ++
    "77+1 5 4d 2c j 2a bq 77 2+1 2a 1u a0+1 o 44t+e 8uy 1xd+4 1o+6 fp+1 f7+g 29+1 cn3+3 2+6 " ++
    "2+1 64i+19 3+m f5+2 4+5 9+7 3+6 v+3 2v7+1p 5f+6 ag 1q+3 lb+1 kh+6 32+2 2+2"),
  ("emoji",
    "z 7 6+9 34 5 68e d 61 n 2j+5 g+1 a8+1 d 4n q+a 5+2 5k 6g+1 b a 1n+3 2+4 a 3 3+1 3 5 3 " ++
    "2+1 3 4 4+1 9+2 6 2 6+b c+1 3 2+1 2 j 3+1 j+5 2 2+1 4+1 6 3+1 5+1 c+1 6+1 3 6+1 2 2+1 " ++
    "l+1 6+5 2+3 3 5 3 3+5 2 3 2 2 7 4 7 b+1 g 3 5 2 5+2 2 c+1 1d+2 a f f ad+1 cw+2 k+1 1g " ++
    "5 yj d gq 2 2fzf 5n 4h+1 d+1 f 3+9 24+p 2+1 o l 3+8 m+1 4v+x 3+33 3+1 2+2 3+2a 3+2 " ++
    "2+7a 2+1q c+5 2+n 8+1 3+7 d 3+3 3 5+1 e+1 3 9+1 a 6+2 d+2 9+2 3 2 5 7 4 7+2d 1d+1x 6+7 " ++
    "3+3 4+9 4 2+1 4 3+9 6c+b 5 7w+1a 2+9 2+54 35+c 4+a 4+1k 2 5+f 3+b 5+9"),
  ("ecomp emojicomponent",
    "z 7 6+9 6ac 5y 17os 1c5z+p e4+4 14h+3 gw31+2n"),
  ("emod emojimodifier",
    "2qrf+4"),
  ("ebase emojimodifierbase",
    "7j1 64 h+3 2iyg 1p+2 3 3+2 3a+1 3+a m+i 4 5+2 2+2 8 2 p 5m+1 5 m 5+1 4v+2 4+4 2c h+2 a " ++
    "c g0 3 9+7 7 a+9 3+2 1l 1q+1 2+1 2 i+2 2+c 6e+2 17+8"),
  ("epres emojipresentation",
    "6xm+1 5q+3 4 3 ei+1 m+1 1f+b 18 k e 9+1 i+1 6+1 9 6 m 8+1 2 5 3 8 5+1 t 10 2 5+2 2 " ++
    "1q+2 p f nw+1 1g 5 2hf3 5n 5b 3+9 24+p 2 p l 3+4 2+2 m+1 4v+w d+8 2+1x 2+l d+16 5+4 " ++
    "d+g 4 4+1y 2 2+56 3+1q e+3 2+n j r+1 e 2f+2c 1d+1x 7 4+2 3+3 4+3 c+1 8+8 6c+b 5 7w+1a " ++
    "2+9 2+54 35+c 4+a 4+1k 2 5+f 3+b 5+9"),
  ("extpict extendedpictographic",
    "4p 5 68e d 61 n 2j+5 g+1 a8+1 d 4n q+a 5+2 5k 6g+1 b a 1n+3 2+4 a 3 3+1 3 5 3 2+1 3 4 " ++
    "4+1 9+2 6 2 6+b c+1 3 2+1 2 j 3+1 j+5 2 2+1 4+1 6 3+1 5+1 c+1 6+1 3 6+1 2 2+1 l+1 6+5 " ++
    "2+3 3 5 3 3+5 2 3 2 2 7 4 7 b+1 g 3 5 2 5+2 2 c+1 1d+2 a f f ad+1 cw+2 k+1 1g 5 yj d " ++
    "gq 2 2fzf 14+3 2t+b g+1 g f+1 12+9 35+1 d+1 f 3+9 k+1j s+e b l 3+8 2+3 a+m 7+57 3+33 " ++
    "3+1 2+2 3+2a 3+2 2+3 6+71 2+1q c+5 2+n 8+1 3+7 d 3+3 3 5+1 e+1 3 9+1 a 6+2 d+2 9+2 3 2 " ++
    "5 7 4 7+2d 1d+1x 6+7 3+g 4 2+5 3+c 63+11 d+3 1l+7 b+5 15+7 v+1 d+3 3+d a+12 d+1a 2+9 " ++
    "2+54 2h+7 f+41 75+sd"),
  ("ext extender",
    "53 ex+1 of ca hj 3u 2i kx 3k 1tw 1l h0 b3 1x 3uy 18+4 2w+1 2m+2 lxz 16f qr n 3u 31 m+1 " ++
    "gos 1ld+1 158 s 5 y0 86 39+1 dv+2 y8 n5 fah+1 wt+1 2 f+1 mdl+1 xe np+2"),
  ("grext graphemeextend",
    "lc+33 7o+6 7c+18 2 2+1 2+1 2 21+a 1d+k h 2u+6 3+5 3+1 2+3 10 v+q 2k+a 1n+8 a p+3 2+8 " ++
    "2+2 2+4 18+2 1o+8 17+n 2+v 1k 2 5+7 5 4+6 b+1 u 1n 2 3+3 9 a b+1 r 3+1 1m 5+1 5+1 3+2 " ++
    "4 v+1 4 c+1 1m 5+4 2+1 5 l+1 n+5 2 1n 2+1 2+3 9 8+2 b+1 v 1o 2 d a 15 4 1k 2+2 6+2 2+3 " ++
    "8+1 c+1 u 1n 3+1 2 4+2 2+3 8+1 c+1 t+1 1m+1 2 3+3 9 a b+1 u 21 5 3+2 2 9 2a 3+6 d+7 2r " ++
    "3+8 c+6 22+1 s 2 2 1k+d 2+4 2+1 6+a 2+z a 2v+3 2+5 2+1 3+1 q+1 5+2 h+3 e 3+1 7 g jk+2 " ++
    "qb+3 t+2 u+1 v+1 1t+1 2+6 9 3+a a 1a+2 2 3a+1 z 3b+2 5+1 a 7+2 64+1 3 1n 2+6 2 2 3+7 " ++
    "7+9 3 1d+19 3+b l+3 1d+9 5+2 13+8 d+1 x+3 3+5 1l 2+1 4 2+4 1l+7 3+1 49+2 2+c 2+6 5 7 " ++
    "4+1 5j+1r el 5g+w 2db+2 3y 2p+v ff+5 2y+1 n9x+3 2+9 x+1 29+1 7l 4 5 q+1 6 48+1 r+h e " ++
    "13+7 q+a 2 19+2 1d 3+3 3+1 3 11 1w+5 3+1 3+1 d 9 1c 1g 2+2 3+1 6+1 2 17+1 9 6n 3 5 fn5 " ++
    "ki+f h+f a7+1 gu 6b 46+4 1af+2 2+1 6+3 15+2 5 4m+1 fy+3 1u+4 8u+1 26+5 1z+a 1e+3 3g " ++
    "1j+e 16 3+1 b+2 1e+3 3+1 8 1q+2 11+4 2+7 1r d+1 1h+8 2 9+3 3 2o+2 3+3 7 3 4e 4+7 m+1 " ++
    "1m+1 2 2 d a f+6 4+4 1w 3+5 2 3 2+2 5+2 2 f+1 2e+7 3+2 2 o 2a 3+5 2 3 2+1 2+1 6k 3+3 " ++
    "7+1 2+1 s+1 2e+7 3 2+1 2z 2 3+7 2u 2 3+3 2+4 78+8 2+1 6u b+3 5 41+3 3+1 5 x+9 15+5 3+3 " ++
    "9 a+5 3+2 1b+c 2+1 5j 2+2 2 5m+6 2+5 2 2b+l 3+6 2+1 2+1 3f+5 4 2+1 2+6 2 21+1 4 2 9o+1 " ++
    "c+1 1h+4 6+2 o 44m 7+e 8uh+b 4+2 1xd+4 1o+6 t5 1s+3 2a c+1 f58+1 3mq+19 3+m f3+4 4+5 " ++
    "9+7 3+6 v+3 45+2 1j0+1i 5+1d 9 f n+4 2+e 11t+6 2+g 3+6 2+1 2+4 2t 4h+6 ag 1q+3 e5+3 " ++
    "73+1 6s 3 8+1 6 d7+6 32+6 gzbq+2n 3l+6n"),
  ("hex hexdigit",
    "1c+9 8+5 r+5 1eay+9 8+5 r+5"),
  ("idc idcontinue",
    "1c+9 8+p 5 2+p 1c b 2 3 6+m 2+u 2+cp 5+b f+4 8 2 i+38 2+1 3+3 2 7+4 2 2+j 2+2a 2+3u " ++
    "2+4 3+4l 2+11 3 7+14 9+18 2 2+1 2+1 2 9+q 5+3 u+a 6+21 5+2t 2+7 3+9 2+i 3 h+1m 3+2s " ++
    "f+1h 5 3 3+19 j+r 5+a 6+n 2+6 8+22 2+3k 3+9 2+i 2+7 3+1 3+l 2+6 2 4+3 3+8 3+1 3+3 9 " ++
    "5+1 2+4 3+b b 2 3+2 2+5 5+1 3+l 2+6 2+1 2+1 2+1 3 2+4 5+1 3+2 4 8+3 2 8+f c+2 2+8 2+2 " ++
    "2+l 2+6 2+1 2+4 3+9 2+2 2+2 3 g+3 3+9 a+6 2+2 2+7 3+1 3+l 2+6 2+1 2+4 3+8 3+1 3+2 8+2 " ++
    "5+1 2+4 3+9 2 h+1 2+5 4+2 2+3 4+1 2 2+1 4+1 4+2 4+b 5+4 4+2 2+3 3 7 f+9 h+c 2+2 2+m " ++
    "2+f 3+8 2+2 2+3 8+1 2+2 2+1 3+3 3+9 h+3 2+7 2+2 2+m 2+9 2+4 3+8 2+2 2+3 8+1 6+2 2+3 " ++
    "3+9 2+2 d+c 2+2 2+1e 2+2 2+4 6+3 8+4 3+9 b+5 2+2 2+h 4+n 2+8 2 3+6 4 5+5 2 2+7 7+9 3+1 " ++
    "e+1l 6+e 2+9 14+1 2 2+4 2+n 2 2+m 3+4 2 2+6 2+9 3+3 x o+1 7+9 c 2 2 5+9 2+z 5+j 2+h " ++
    "2+z a 1m+21 7+25 3+11 2 6 3+16 2+98 2+3 3+6 2 2+3 3+14 2+3 3+w 2+3 3+6 2 2+3 3+e 2+1k " ++
    "2+3 3+1u 3+2 a+8 f+f h+2d 3+5 4+h7 3+g 2+p 6+22 4+a 8+l a+l c+j d+c 2+2 2+1 d+2b 4 5+1 " ++
    "3+9 y+2 2+a 7+2g 8+16 6+1x b+u 2+b 5+b b+13 3+4 c+17 5+p 7+a 12+r 5+1q 2+s 3+a 7+9 e " ++
    "9+d 2+u 3+b l+24 4+9 i+8 d+37 d+1j 9+9 4+1c 3+a 6+16 3+2 h+2 2+12 6+et 3+5 3+11 3+5 " ++
    "3+7 2 2 2 2+u 3+1g 2+6 2 4+2 2+6 4+3 3+5 5+c 6+2 2+6 g+1 1e+1 k t e h+c 1g+c 5 4+b i 5 " ++
    "3+9 2 3+5 7 2 2 2+f 3+3 6+4 5 i+14 22g+6c 7+8 d+11 2 6 3+1j 8 g+n a+6 2+6 2+6 2+6 2+6 " ++
    "2+6 2+6 2+6 2+v ee+2 q+e 2+4 3+4 5+2d 3+6 2+2m 6+16 2+2l i+v 1d+f e9+533 1t+h3g 1w+19 " ++
    "3+7g 4+r l+1b 5+9 2+36 12+8 3+2u 3+29 l+1i 5 k+1f d+1x b+9 7+n 4 2+1c 3+z d+s 4+1s f+a " ++
    "7+u 2+1i a+d 3+9 7+m 4+20 p+2 3+f 3+4 b+5 3+5 3+5 a+6 2+6 2+16 2+d 7+3e 2+1 3+9 7+8mb " ++
    "d+m 5+1c 6it+a5 3+2x 13+6 d+4 6+b 2+c 2+4 2 2+1 2+1 2+2z y+a2 j+1r 3+1h 15+b 5+f h+f " ++
    "4+1 p+2 x+4 2+3q k+9 8+p 5 2+p b+2h 4+5 3+5 3+5 3+2 10+b 2+p 2+i 2+1 2+e 3+d z+3e " ++
    "1y+1g 3t 3n+s 4+1c g w+v e+t 6+16 6+t 3+z 5+7 2+4 17+4d 3+9 7+z 5+z 5+13 9+1f d+a 2+e " ++
    "2+6 2+1 2+a 2+e 2+6 2+1 4+1f d+8m a+l b+7 p+5 2+15 2+8 1y+5 3 2+17 2+1 4 3+m b+m a+u " ++
    "1u+i 2+1 b+l b+p 7+p 13+1j 7+1 1t+3 2+1 6+7 2+2 2+s 3+2 5 x+s 4+s 10+7 2+t q+1h b+l " ++
    "b+i e+h 33+20 1k+1e e+1e e+13 9+9 7+11 4+4 2+m 6z+15 2+1 4+1 h+5 1f+y b 9+w w+l 17+k " ++
    "s+m a+1y w+f a+1n 8 e+o 8+9 7+1g 2+9 5+3 9+z 3 a+1w 5+3 2+c 2 10+h 2+10 7+3 1r+6 2 2+3 " ++
    "2+e 2+9 8+1m 6+9 7+3 2+7 3+1 3+l 2+6 2+1 2+4 2+9 3+1 3+2 3 7 6+6 3+6 4+4 c+9 2 3 2+11 " ++
    "2+9 2 3 2+3 2+7 e+1 u+22 6+9 5+3 v+1x 2 9+9 4n+1h 3+8 o+5 z+1s 4 c+9 13+1k 8+9 7+j t+q " ++
    "3+e 5+9 7+6 56+1m 2u+21 m+7 3 3+7 2+1 2+t 2+1 3+8 d+9 1z+7 3+19 3+7 2+1 s+1q 9 9+21 4 " ++
    "j+20 2w+7 2h+w g+9 7+8 2+18 2+8 g+9 p+t 3+l 2+d 22+6 2+1 2+17 4 2+1 2+8 9+9 7+5 2+1 " ++
    "2+10 2+1 2+5 8+9 7+17 5+9 6v+m a+g 2+14 4+4 e+a 2e 28+pl 2v+32 i+5f 219+2o g+tr h+l " ++
    "b+32y 6+g6 5a2+1l 1c7+fs 8+u 2+9 7+26 2+9 7+t 3+4 c+1i a+3 d+9 a+k 6+i c1+18 4+9 5j+1r " ++
    "x+o 3+o 19+22 5+1k 8+g 1t+1 2+1 c+6 a+5p1 16+v 2q+36 6pq+3 2+6 2+1 2+82 g u+2 3 f+3 " ++
    "9+az 1s5+2y 6+c 4+8 8+9 4+1 382+9 ef+19 3+m f3+4 4+5 9+7 3+6 v+3 45+2 cc+2c 2+1y 2+1 3 " ++
    "3+1 3+3 2+b 2 2+6 2+1s 2+3 3+7 2+6 2+r 2+3 2+4 2 4+6 2+9f 3+o 2+o 2+u 2+o 2+u 2+o 2+u " ++
    "2+o 2+u 2+o 2+7 3+1d e9+1i 5+1d 9 f n+4 2+e up+u 7+5 5y+6 2+g 3+6 2+1 2+4 6+1p y 35+18 " ++
    "4+d 3+9 5 8y+u i+1l d3+15 5z+16 5i+u 2+l 9+1 69+6 2+3 2+1 2+e 2+5g c+6 16+23 5+9 x3+3 " ++
    "2+q 2+1 2 3 2+9 2+3 2 2 7 5 2 2 2+2 2+1 2 3 2 2 2 2 2+1 2 3+3 2+6 2+3 2+3 2 2+9 2+g " ++
    "6+2 2+4 2+g 2lx+9 sn+wyn x+3dp 3+4gd 3+5rk g+h9 1wj+f1 15v+3t6 6+6jt f62v+6n"),
  ("ids idstart",
    "1t+p 7+p 1c b 5 6+m 2+u 2+cp 5+b f+4 8 2 3m+4 2+1 3+3 2 7 2+2 2 2+j 2+2a 2+3u 9+4l " ++
    "2+11 3 7+14 20+q 5+3 1a+16 10+1 2+2q 2 g+1 8+1 b+2 3 h 2+t u+2g c p+w a+1 5 6+l 5 a 4 " ++
    "o+o 8+a 6+n 2+6 h+15 1n+1h 4 j 8+9 g+f 5+7 3+1 3+l 2+6 2 4+3 4 h e+1 2+2 f+1 b 9+5 5+1 " ++
    "3+l 2+6 2+1 2+1 2+1 w+3 2 k+2 h+8 2+2 2+l 2+6 2+1 2+4 4 j g+1 o c+7 3+1 3+l 2+6 2+1 " ++
    "2+4 4 v+1 2+2 g i 2+5 4+2 2+3 4+1 2 2+1 4+1 4+2 4+b n 1h+7 2+2 2+m 2+f 4 r+2 2+1 3+1 v " ++
    "5+7 2+2 2+m 2+9 2+4 4 v+2 2+1 g+1 i+8 2+2 2+14 3 h 6+2 9+2 p+5 6+h 4+n 2+8 2 3+6 1n+1b " ++
    "2+1 d+6 1n+1 2 2+4 2+n 2 2+9 2+1 a 3+4 2 m+3 x 1s+7 2+z s+4 38+16 l h+5 5+3 4 4+1 8+2 " ++
    "5+c d i+11 2 6 3+16 2+98 2+3 3+6 2 2+3 3+14 2+3 3+w 2+3 3+6 2 2+3 3+e 2+1k 2+3 3+1u " ++
    "12+f h+2d 3+5 4+h7 3+g 2+p 6+22 4+a 8+h e+i f+h f+c 2+2 g+1f 10 5 1w+2g 8+14 2 6+1x " ++
    "b+u 1e+t 3+4 c+17 5+p 1j+m a+1g 2b 2m+1a i+7 1j+t e+1 b+17 r+z 16+2 b+z 3+a 6+16 3+2 " ++
    "16+3 2+5 2+1 4 6+5b 1t+7p 3+5 3+11 3+5 3+7 2 2 2 2+u 3+1g 2+6 2 4+2 2+6 4+3 3+5 5+c " ++
    "6+2 2+6 39 e h+c 2u 5 3+9 2 3+5 7 2 2 2+f 3+3 6+4 5 i+14 22g+6c 7+3 4+1 d+11 2 6 3+1j " ++
    "8 h+m a+6 2+6 2+6 2+6 2+6 2+6 2+6 2+6 fb+2 q+8 8+4 3+4 5+2d 5+4 2+2h 2+3 6+16 2+2l i+v " ++
    "1d+f e9+533 1t+h3g 1w+19 3+7g 4+f b+1 l+1a h+u 3+27 14+8 3+2u 3+29 l+g 2+2 2+3 2+m " ++
    "u+1f f+1d 1r+5 4 2+1 c+r b+m q+s 8+1a t h+4 2+9 b+4 2+14 o+2 2+7 l+m 4 4+1d 2 4+1 3+4 " ++
    "3 2 p+2 3+a 8+2 d+5 3+5 3+5 a+6 2+6 2+16 2+d 7+36 u+8mb d+m 5+1c 6it+a5 3+2x 13+6 d+4 " ++
    "6 2+9 2+c 2+4 2 2+1 2+1 2+2z y+a2 j+1r 3+1h 15+b 39+4 2+3q 11+p 7+p c+2g 4+5 3+5 3+5 " ++
    "3+2 10+b 2+p 2+i 2+1 2+e 3+d z+3e 1y+1g 7g+s 4+1c 1c+v e+t 6+11 b+t 3+z 5+7 2+4 17+4d " ++
    "j+z 5+z 5+13 9+1f d+a 2+e 2+6 2+1 2+a 2+e 2+6 2+1 4+1f d+8m a+l b+7 p+5 2+15 2+8 1y+5 " ++
    "3 2+17 2+1 4 3+m b+m a+u 1u+i 2+1 b+l b+p 7+p 13+1j 7+1 1t g+3 2+2 2+s 17+s 4+s 10+7 " ++
    "2+r s+1h b+l b+i e+h 33+20 1k+1e e+1e e+z 13+r a+m 6z+15 7+1 h+5 1l+s b 9+l 17+h 1b+k " ++
    "s+m d+1g 1m+1 3 e+18 x+o r+z u 3 9+y 4 d+1b f+3 m 2 10+h 2+o k+1 1s+6 2 2+3 2+e 2+9 " ++
    "8+1a 13+7 3+1 3+l 2+6 2+1 2+4 4 j d+4 v+9 2 3 2+11 2 q 2 19+1g j+3 l+2 v+1b l+1 2 " ++
    "55+1a 16+3 11+1b l 1o+16 e 20+q 12+6 56+17 39+1r w+7 3 3+7 2+1 2+n g 2 2n+7 3+12 h 2 t " ++
    "b+13 8 m c+19 k j+20 5k+w w+8 2+10 i 1e+t 35+6 2+1 2+11 m q+5 2+1 2+v f o+17 79+i g " ++
    "2+c 2+x 3h 28+pl 2v+32 i+5f 219+2o g+tr i+5 q+32y 6+g6 5a2+t 1cz+fs 8+u i+26 i+t j+1b " ++
    "h+3 w+k 6+i c1+18 5w+1r x+o 3+o 19+22 6 1v+c 1t+1 2 f+4 a+5p1 16+v 2q+36 6pq+3 2+6 2+1 " ++
    "2+82 g u+2 3 f+3 9+az 1s5+2y 6+c 4+8 8+9 4mf+2c 2+1y 2+1 3 3+1 3+3 2+b 2 2+6 2+1s 2+3 " ++
    "3+7 2+6 2+r 2+3 2+4 2 4+6 2+9f 3+o 2+o 2+u 2+o 2+u 2+o 2+u 2+o 2+u 2+o 2+7 1f9+u 7+5 " ++
    "7a+1p 43+18 b+6 h 8y+t j+17 dh+r 6d+t 3 5s+u 2+2 2+1 2+6 3+4 a+1 69+6 2+3 2+1 2+e 2+5g " ++
    "1o+1v 8 xh+3 2+q 2+1 2 3 2+9 2+3 2 2 7 5 2 2 2+2 2+1 2 3 2 2 2 2 2+1 2 3+3 2+6 2+3 2+3 " ++
    "2 2+9 2+g 6+2 2+4 2+g 3et+wyn x+3dp 3+4gd 3+5rk g+h9 1wj+f1 15v+3t6 6+6jt"),
  ("ideo ideographic",
    "9hi+1 q+8 f+2 qu+533 1t+g73 hkx+a5 3+2x n4b e+4 a+5p1 16+v 2q+36 70e+az f7p+wyn x+3dp " ++
    "3+4gd 3+5rk g+h9 1wj+f1 15v+3t6 6+6jt"),
  ("idsb idsbinaryoperator",
    "9gw+1 3+9 du"),
  ("idst idstrinaryoperator",
    "9gy+1"),
  ("joinc joincontrol",
    "6bw+1"),
  ("loe logicalorderexception",
    "2tc+4 3g+4 25t+2 3 smz+1 3 2+1"),
  ("lower lowercase",
    "2p+p 1c b 5 11+n 2+7 2 2 2 2 2 2 2 2 2 2 2 2 2 2 2 2 2 2 2 2 2 2 2 2 2 2 2 2+1 2 2 2 2 " ++
    "2 2 2 2+1 2 2 2 2 2 2 2 2 2 2 2 2 2 2 2 2 2 2 2 2 2 2 2 3 2 2+2 3 2 3 4+1 5 3 4+2 3 3 " ++
    "2 2 3 2+1 2 3 4 2 3+1 3+2 7 3 3 2 2 2 2 2 2 2 2+1 2 2 2 2 2 2 2 2 2+1 3 2 4 2 2 2 2 2 " ++
    "2 2 2 2 2 2 2 2 2 2 2 2 2 2 2 2 2 2 2 2 2 2 2 2+6 3 3+1 2 5 2 2 2 2+1w 3+y 8+1 v+4 2p " ++
    "18 2 4 3+3 j s+y 2+1 4+2 2 2 2 2 2 2 2 2 2 2 2 2+4 2 3 3+1 1g+1b 2 2 2 2 2 2 2 2 2 2 2 " ++
    "2 2 2 2 2 2 a 2 2 2 2 2 2 2 2 2 2 2 2 2 2 2 2 2 2 2 2 2 2 2 2 2 2 3 2 2 2 2 2 2+1 2 2 " ++
    "2 2 2 2 2 2 2 2 2 2 2 2 2 2 2 2 2 2 2 2 2 2 2 2 2 2 2 2 2 2 2 2 2 2 2 2 2 2 2 2 2 2 2 " ++
    "2 2 2 1d+14 288+16 2+3 l5+5 1oj+8 2 3a+5b 1u 2 2 2 2 2 2 2 2 2 2 2 2 2 2 2 2 2 2 2 2 2 " ++
    "2 2 2 2 2 2 2 2 2 2 2 2 2 2 2 2 2 2 2 2 2 2 2 2 2 2 2 2 2 2 2 2 2 2 2 2 2 2 2 2 2 2 2 " ++
    "2 2 2 2 2 2 2 2 2 2+8 2 2 2 2 2 2 2 2 2 2 2 2 2 2 2 2 2 2 2 2 2 2 2 2 2 2 2 2 2 2 2 2 " ++
    "2 2 2 2 2 2 2 2 2 2 2 2 2 2 2 2 2+8 9+5 b+7 9+7 9+5 b+7 9+7 9+d 3+7 9+7 9+7 9+4 2+1 7 " ++
    "4+2 2+1 9+3 3+1 9+7 b+2 2+1 3e e h+c 32 4+1 4 s 5 5 3+1 9+3 5 y+f 5 ng+p 1fr+1b 2 4+1 " ++
    "2 2 2 5 2+1 2+7 4 2 2 2 2 2 2 2 2 2 2 2 2 2 2 2 2 2 2 2 2 2 2 2 2 2 2 2 2 2 2 2 2 2 2 " ++
    "2 2 2 2 2 2 2 2 2 2 2 2 2 2 2+1 8 2 5 d+11 2 6 nx0 2 2 2 2 2 2 2 2 2 2 2 2 2 2 2 2 2 2 " ++
    "2 2 2 2 k 2 2 2 2 2 2 2 2 2 2 2 2 2+2 3q 2 2 2 2 2 2+2 2 2 2 2 2 2 2 2 2 2 2 2 2 2 2 2 " ++
    "2 2 2 2 2 2 2 2 2 2 2 2 2 2 2+9 2 2 3 2 2 2 2 5 2 3 2+2 2 2 2 2 2 2 2 2 2 2 6 6 2 2 2 " ++
    "2 2 2 2 5 2 3 2 2 2 2 2 2 2 m+3 2 2+2 mu+16 2+d 7+27 fnl+6 d+4 tm+p y6+13 3t+z 4c+a " ++
    "2+e 2+6 2+1 ck 3+2 2+15 2+8 zq+1e 3i+l 27v+v gw1+v 1o+o k07+p r+6 2+h r+p r+3 2 2+6 " ++
    "2+a r+p r+p r+p r+p r+p r+p r+p r+p r+r t+o 2+5 r+o 2+5 r+o 2+5 r+o 2+5 r+o 2+5 2 " ++
    "1f9+9 2+j 7+5 7a+1p 1px+x"),
  ("math",
    "17 h+2 w u 2 1a 5 12 w k9+2 3 r+1 3+2 eo+2 55a s+2 c 4 e f+3 m+4 c+4 1u+c 5 4+1 5+4 j " ++
    "5 3+9 2 3+5 7 4+1 3+1 2+2 2+5 4+d 2 1x+n 2+5 2+1 5+1 5+v 2 7+1 f+7f 9+3 l+1 2j v+q 2 p " ++
    "c+6 ce+1 d+9 5+5 5+1 3+1 4+4 f 2 3+5 c+7 6+1 1m 2 u+3 a+2 9d+1r 75+e7 1d+k 3+5 1525 " ++
    "mw+5 2 4j h+2 u 2 u 2 3o 7+3 2oy+1 1275 100+2c 2+1y 2+1 3 3+1 3+3 2+b 2 2+6 2+1s 2+3 " ++
    "3+7 2+6 2+r 2+3 2+4 2 4+6 2+9f 3+83 3+1d 4ch+3 2+q 2+1 2 3 2+9 2+3 2 2 7 5 2 2 2+2 2+1 " ++
    "2 3 2 2 2 2 2+1 2 3+3 2+6 2+3 2+3 2 2+9 2+g 6+2 2+4 2+g 1h+1 1y7+8"),
  ("nchar noncharactercodepoint",
    "1e4w+v en+1 1ekf+1 1ekf+1 1ekf+1 1ekf+1 1ekf+1 1ekf+1 1ekf+1 1ekf+1 1ekf+1 1ekf+1 " ++
    "1ekf+1 1ekf+1 1ekf+1 1ekf+1 1ekf+1 1ekf+1"),
  ("patsyn patternsyntax",
    "x+e b+6 r+3 2 r+3 z+6 2 2+1 2 2+1 5 5 4 o w 655+n 9+e 3+i 2+9 8i+jz 4h+hh v+vf e9+3j " ++
    "aq+2 5+o g 14i6+1 7a+1"),
  ("patws patternwhitespace",
    "9+4 j 2t 689+1 p+1"),
  ("qmark quotationmark",
    "y 5 3o g 671+7 q+1 2rs cq+3 e+2 14pu+3 5a 5 2j+1"),
  ("radical",
    "96o+p 2+2g d+5x"),
  ("ri regionalindicator",
    "2qcm+p"),
  ("sterm sentenceterminal",
    "x d h 11m 44+2 51 18+2 6v 1q 2 4+1 86+1 1d1+1 lz 5+1 li 5j+1 4e+1 1a 6 8r+1 9v+3 4j+1 " ++
    "b+1 3+1 u+2 58+1 1u+1 px o+1 a+2 2i8+2 8j e n+1 by n3x 7j+1 6c 4 an+1 2f+1 2o 49+1 " ++
    "44+2 41+1 6y g87 3+1 1o 4+1 4q d h 1u 25x+1 zi+4 19+3 5a+1 3a+3 3k+2 3m+1 7 h+1 2h+1 " ++
    "2+1 31 8b+1 3a+1 ae+1 6+e 2y+1 6y+2 ee 2 70+1 2g+1 bp+1 j9+1 23+1 eui+1 3q 1u+1 c fe+1 " ++
    "89 fev 5wp"),
  ("sd softdotted",
    "2x+1 5h 7u v 1h l 8x 2r 2 4y2 1g e 4 3p 4e bq 5z+1 27n 2bom+1 1f+1 1f+1 1f+1 1f+1 1f+1 " ++
    "1f+1 1f+1 1f+1 1f+1 1f+1 1f+1 1f+1 1on 8i+1 r"),
  ("term terminalpunctuation",
    "x b 2 c+1 4 n3 9 ea 1m 21 f 2+2 51 18+a 2 6k+1 1j+5 2+7 w 7a+1 z9+1 4t 5+5 8o+1 ly+7 " ++
    "li 3h+2 20+1 4e+2 4 14+3 3+1 8r+1 9v+3 4j+1 b+1 2+2 u+2 58+4 1r+1 px o+1 a+2 2i8+2 8j " ++
    "e 5 b 2+1 4+1 bx+1 n3w+1 7i+2 6c+4 an+1 2f+1 2o 48+2 44+2 3k h+1 6y g87 3+1 1m+2 2+3 " ++
    "4q b 2 c+1 4 1u 3 u3 1d w7 5k 8n+1 49+5 1x+5 2i+3 qh+4 19+3 5a+6 35+3 3k+2 3m+1 7 h+1 " ++
    "2h+4 31 8b+1 3a+2 d+1 9z+3 4+e 2y+1 6y+2 ee 2 70+1 2g+1 5+1 bj+2 1a hy+1 23+1 10s+4 " ++
    "dtm+1 3q 1u+2 b fe+1 88+1 fev 5wo+3"),
  ("uideo unifiedideograph",
    "a9s+533 1t+g73 hsf+1 2 2+1 b 2 2+1 3+2 1fpz+wyn x+3dp 3+4gd 3+5rk g+h9 3hf+3t6 6+6jt"),
  ("upper uppercase",
    "1t+p 2u+m 2+6 y 2 2 2 2 2 2 2 2 2 2 2 2 2 2 2 2 2 2 2 2 2 2 2 2 2 2 2 3 2 2 2 2 2 2 2 " ++
    "3 2 2 2 2 2 2 2 2 2 2 2 2 2 2 2 2 2 2 2 2 2 2 2+1 2 2 4+1 2 2+1 2+2 3+3 2+1 2+2 4+1 " ++
    "2+1 2 2 2+1 2 3 2+1 2+2 2 2+1 4 8 3 3 3 2 2 2 2 2 2 2 3 2 2 2 2 2 2 2 2 3 3 2+2 2 2 2 " ++
    "2 2 2 2 2 2 2 2 2 2 2 2 2 2 2 2 2 2 2 2 2 2 2 2 2 2 8+1 2+1 3 2+3 2 2 2 2 82 2 4 9 7 " ++
    "2+2 2 2+1 2+g 2+8 10 3+2 4 2 2 2 2 2 2 2 2 2 2 2 6 3 2+1 3+1e 1d 2 2 2 2 2 2 2 2 2 2 2 " ++
    "2 2 2 2 2 a 2 2 2 2 2 2 2 2 2 2 2 2 2 2 2 2 2 2 2 2 2 2 2 2 2 2 2+1 2 2 2 2 2 2 3 2 2 " ++
    "2 2 2 2 2 2 2 2 2 2 2 2 2 2 2 2 2 2 2 2 2 2 2 2 2 2 2 2 2 2 2 2 2 2 2 2 2 2 2 2 2 2 2 " ++
    "2 2 3+11 28a+11 2 6 k3+2d 1p0 7+16 3+2 8x 2 2 2 2 2 2 2 2 2 2 2 2 2 2 2 2 2 2 2 2 2 2 " ++
    "2 2 2 2 2 2 2 2 2 2 2 2 2 2 2 2 2 2 2 2 2 2 2 2 2 2 2 2 2 2 2 2 2 2 2 2 2 2 2 2 2 2 2 " ++
    "2 2 2 2 2 2 2 2 2 a 2 2 2 2 2 2 2 2 2 2 2 2 2 2 2 2 2 2 2 2 2 2 2 2 2 2 2 2 2 2 2 2 2 " ++
    "2 2 2 2 2 2 2 2 2 2 2 2 2 2 2 a+7 9+5 b+7 9+7 9+5 c 2 2 2 9+7 21+3 d+3 d+3 d+4 c+3 7b " ++
    "5 4+2 3+2 3 4+4 7 2 2 2+3 3+3 b+1 6 r+f k mr+p 1f5+1b 1d 2+2 3 2 2 2+3 2 3 9+2 2 2 2 2 " ++
    "2 2 2 2 2 2 2 2 2 2 2 2 2 2 2 2 2 2 2 2 2 2 2 2 2 2 2 2 2 2 2 2 2 2 2 2 2 2 2 2 2 2 2 " ++
    "2 2 9 2 5 nym 2 2 2 2 2 2 2 2 2 2 2 2 2 2 2 2 2 2 2 2 2 2 k 2 2 2 2 2 2 2 2 2 2 2 2 2 " ++
    "3s 2 2 2 2 2 2 4 2 2 2 2 2 2 2 2 2 2 2 2 2 2 2 2 2 2 2 2 2 2 2 2 2 2 2 2 2 2 b 2 2+1 2 " ++
    "2 2 2 5 2 3 2 4 2 2 2 2 2 2 2 2 2 2+4 2+4 2 2 2 2 2 2 2 2+3 2 2+1 2 2 2 2 2 2 2 2 p " ++
    "h7w+p xy+13 3t+z 4d+a 2+e 2+6 2+1 1d7+1e 4e+l 27v+v gw1+v 1t+o k08+p r+p r+p r 2+1 3 " ++
    "3+1 3+3 2+7 r+p r+1 2+3 3+7 2+6 s+1 2+3 2+4 2 4+6 s+p r+p r+p r+p r+p r+p v+o y+o y+o " ++
    "y+o y+o y 3ee+x 1lb+p 7+p 7+p"),
  ("vs variationselector",
    "4qz+2 2 19f5+f i9yp+6n"),
  ("wspace whitespace space",
    "9+4 j 2t r 4bk 1vk+a u+1 6 1c 335"),
  ("xidc xidcontinue",
    "1c+9 8+p 5 2+p 1c b 2 3 6+m 2+u 2+cp 5+b f+4 8 2 i+38 2+1 4+2 2 7+4 2 2+j 2+2a 2+3u " ++
    "2+4 3+4l 2+11 3 7+14 9+18 2 2+1 2+1 2 9+q 5+3 u+a 6+21 5+2t 2+7 3+9 2+i 3 h+1m 3+2s " ++
    "f+1h 5 3 3+19 j+r 5+a 6+n 2+6 8+22 2+3k 3+9 2+i 2+7 3+1 3+l 2+6 2 4+3 3+8 3+1 3+3 9 " ++
    "5+1 2+4 3+b b 2 3+2 2+5 5+1 3+l 2+6 2+1 2+1 2+1 3 2+4 5+1 3+2 4 8+3 2 8+f c+2 2+8 2+2 " ++
    "2+l 2+6 2+1 2+4 3+9 2+2 2+2 3 g+3 3+9 a+6 2+2 2+7 3+1 3+l 2+6 2+1 2+4 3+8 3+1 3+2 8+2 " ++
    "5+1 2+4 3+9 2 h+1 2+5 4+2 2+3 4+1 2 2+1 4+1 4+2 4+b 5+4 4+2 2+3 3 7 f+9 h+c 2+2 2+m " ++
    "2+f 3+8 2+2 2+3 8+1 2+2 2+1 3+3 3+9 h+3 2+7 2+2 2+m 2+9 2+4 3+8 2+2 2+3 8+1 6+2 2+3 " ++
    "3+9 2+2 d+c 2+2 2+1e 2+2 2+4 6+3 8+4 3+9 b+5 2+2 2+h 4+n 2+8 2 3+6 4 5+5 2 2+7 7+9 3+1 " ++
    "e+1l 6+e 2+9 14+1 2 2+4 2+n 2 2+m 3+4 2 2+6 2+9 3+3 x o+1 7+9 c 2 2 5+9 2+z 5+j 2+h " ++
    "2+z a 1m+21 7+25 3+11 2 6 3+16 2+98 2+3 3+6 2 2+3 3+14 2+3 3+w 2+3 3+6 2 2+3 3+e 2+1k " ++
    "2+3 3+1u 3+2 a+8 f+f h+2d 3+5 4+h7 3+g 2+p 6+22 4+a 8+l a+l c+j d+c 2+2 2+1 d+2b 4 5+1 " ++
    "3+9 y+2 2+a 7+2g 8+16 6+1x b+u 2+b 5+b b+13 3+4 c+17 5+p 7+a 12+r 5+1q 2+s 3+a 7+9 e " ++
    "9+d 2+u 3+b l+24 4+9 i+8 d+37 d+1j 9+9 4+1c 3+a 6+16 3+2 h+2 2+12 6+et 3+5 3+11 3+5 " ++
    "3+7 2 2 2 2+u 3+1g 2+6 2 4+2 2+6 4+3 3+5 5+c 6+2 2+6 g+1 1e+1 k t e h+c 1g+c 5 4+b i 5 " ++
    "3+9 2 3+5 7 2 2 2+f 3+3 6+4 5 i+14 22g+6c 7+8 d+11 2 6 3+1j 8 g+n a+6 2+6 2+6 2+6 2+6 " ++
    "2+6 2+6 2+6 2+v ee+2 q+e 2+4 3+4 5+2d 3+1 3+2 2+2m 6+16 2+2l i+v 1d+f e9+533 1t+h3g " ++
    "1w+19 3+7g 4+r l+1b 5+9 2+36 12+8 3+2u 3+29 l+1i 5 k+1f d+1x b+9 7+n 4 2+1c 3+z d+s " ++
    "4+1s f+a 7+u 2+1i a+d 3+9 7+m 4+20 p+2 3+f 3+4 b+5 3+5 3+5 a+6 2+6 2+16 2+d 7+3e 2+1 " ++
    "3+9 7+8mb d+m 5+1c 6it+a5 3+2x 13+6 d+4 6+b 2+c 2+4 2 2+1 2+1 2+2z y+3u 7+61 j+1r 3+1h " ++
    "15+9 7+f h+f 4+1 p+2 y 2 4 2 2 2 2+3h k+9 8+p 5 2+p b+2h 4+5 3+5 3+5 3+2 10+b 2+p 2+i " ++
    "2+1 2+e 3+d z+3e 1y+1g 3t 3n+s 4+1c g w+v e+t 6+16 6+t 3+z 5+7 2+4 17+4d 3+9 7+z 5+z " ++
    "5+13 9+1f d+a 2+e 2+6 2+1 2+a 2+e 2+6 2+1 4+1f d+8m a+l b+7 p+5 2+15 2+8 1y+5 3 2+17 " ++
    "2+1 4 3+m b+m a+u 1u+i 2+1 b+l b+p 7+p 13+1j 7+1 1t+3 2+1 6+7 2+2 2+s 3+2 5 x+s 4+s " ++
    "10+7 2+t q+1h b+l b+i e+h 33+20 1k+1e e+1e e+13 9+9 7+11 4+4 2+m 6z+15 2+1 4+1 h+5 " ++
    "1f+y b 9+w w+l 17+k s+m a+1y w+f a+1n 8 e+o 8+9 7+1g 2+9 5+3 9+z 3 a+1w 5+3 2+c 2 10+h " ++
    "2+10 7+3 1r+6 2 2+3 2+e 2+9 8+1m 6+9 7+3 2+7 3+1 3+l 2+6 2+1 2+4 2+9 3+1 3+2 3 7 6+6 " ++
    "3+6 4+4 c+9 2 3 2+11 2+9 2 3 2+3 2+7 e+1 u+22 6+9 5+3 v+1x 2 9+9 4n+1h 3+8 o+5 z+1s 4 " ++
    "c+9 13+1k 8+9 7+j t+q 3+e 5+9 7+6 56+1m 2u+21 m+7 3 3+7 2+1 2+t 2+1 3+8 d+9 1z+7 3+19 " ++
    "3+7 2+1 s+1q 9 9+21 4 j+20 2w+7 2h+w g+9 7+8 2+18 2+8 g+9 p+t 3+l 2+d 22+6 2+1 2+17 4 " ++
    "2+1 2+8 9+9 7+5 2+1 2+10 2+1 2+5 8+9 7+17 5+9 6v+m a+g 2+14 4+4 e+a 2e 28+pl 2v+32 " ++
    "i+5f 219+2o g+tr h+l b+32y 6+g6 5a2+1l 1c7+fs 8+u 2+9 7+26 2+9 7+t 3+4 c+1i a+3 d+9 " ++
    "a+k 6+i c1+18 4+9 5j+1r x+o 3+o 19+22 5+1k 8+g 1t+1 2+1 c+6 a+5p1 16+v 2q+36 6pq+3 2+6 " ++
    "2+1 2+82 g u+2 3 f+3 9+az 1s5+2y 6+c 4+8 8+9 4+1 382+9 ef+19 3+m f3+4 4+5 9+7 3+6 v+3 " ++
    "45+2 cc+2c 2+1y 2+1 3 3+1 3+3 2+b 2 2+6 2+1s 2+3 3+7 2+6 2+r 2+3 2+4 2 4+6 2+9f 3+o " ++
    "2+o 2+u 2+o 2+u 2+o 2+u 2+o 2+u 2+o 2+7 3+1d e9+1i 5+1d 9 f n+4 2+e up+u 7+5 5y+6 2+g " ++
    "3+6 2+1 2+4 6+1p y 35+18 4+d 3+9 5 8y+u i+1l d3+15 5z+16 5i+u 2+l 9+1 69+6 2+3 2+1 2+e " ++
    "2+5g c+6 16+23 5+9 x3+3 2+q 2+1 2 3 2+9 2+3 2 2 7 5 2 2 2+2 2+1 2 3 2 2 2 2 2+1 2 3+3 " ++
    "2+6 2+3 2+3 2 2+9 2+g 6+2 2+4 2+g 2lx+9 sn+wyn x+3dp 3+4gd 3+5rk g+h9 1wj+f1 15v+3t6 " ++
    "6+6jt f62v+6n"),
  ("xids xidstart",
    "1t+p 7+p 1c b 5 6+m 2+u 2+cp 5+b f+4 8 2 3m+4 2+1 4+2 2 7 2+2 2 2+j 2+2a 2+3u 9+4l " ++
    "2+11 3 7+14 20+q 5+3 1a+16 10+1 2+2q 2 g+1 8+1 b+2 3 h 2+t u+2g c p+w a+1 5 6+l 5 a 4 " ++
    "o+o 8+a 6+n 2+6 h+15 1n+1h 4 j 8+9 g+f 5+7 3+1 3+l 2+6 2 4+3 4 h e+1 2+2 f+1 b 9+5 5+1 " ++
    "3+l 2+6 2+1 2+1 2+1 w+3 2 k+2 h+8 2+2 2+l 2+6 2+1 2+4 4 j g+1 o c+7 3+1 3+l 2+6 2+1 " ++
    "2+4 4 v+1 2+2 g i 2+5 4+2 2+3 4+1 2 2+1 4+1 4+2 4+b n 1h+7 2+2 2+m 2+f 4 r+2 2+1 3+1 v " ++
    "5+7 2+2 2+m 2+9 2+4 4 v+2 2+1 g+1 i+8 2+2 2+14 3 h 6+2 9+2 p+5 6+h 4+n 2+8 2 3+6 1n+1b " ++
    "2 e+6 1n+1 2 2+4 2+n 2 2+9 2 b 3+4 2 m+3 x 1s+7 2+z s+4 38+16 l h+5 5+3 4 4+1 8+2 5+c " ++
    "d i+11 2 6 3+16 2+98 2+3 3+6 2 2+3 3+14 2+3 3+w 2+3 3+6 2 2+3 3+e 2+1k 2+3 3+1u 12+f " ++
    "h+2d 3+5 4+h7 3+g 2+p 6+22 4+a 8+h e+i f+h f+c 2+2 g+1f 10 5 1w+2g 8+14 2 6+1x b+u " ++
    "1e+t 3+4 c+17 5+p 1j+m a+1g 2b 2m+1a i+7 1j+t e+1 b+17 r+z 16+2 b+z 3+a 6+16 3+2 16+3 " ++
    "2+5 2+1 4 6+5b 1t+7p 3+5 3+11 3+5 3+7 2 2 2 2+u 3+1g 2+6 2 4+2 2+6 4+3 3+5 5+c 6+2 2+6 " ++
    "39 e h+c 2u 5 3+9 2 3+5 7 2 2 2+f 3+3 6+4 5 i+14 22g+6c 7+3 4+1 d+11 2 6 3+1j 8 h+m " ++
    "a+6 2+6 2+6 2+6 2+6 2+6 2+6 2+6 fb+2 q+8 8+4 3+4 5+2d 7+2 2+2h 2+3 6+16 2+2l i+v 1d+f " ++
    "e9+533 1t+h3g 1w+19 3+7g 4+f b+1 l+1a h+u 3+27 14+8 3+2u 3+29 l+g 2+2 2+3 2+m u+1f " ++
    "f+1d 1r+5 4 2+1 c+r b+m q+s 8+1a t h+4 2+9 b+4 2+14 o+2 2+7 l+m 4 4+1d 2 4+1 3+4 3 2 " ++
    "p+2 3+a 8+2 d+5 3+5 3+5 a+6 2+6 2+16 2+d 7+36 u+8mb d+m 5+1c 6it+a5 3+2x 13+6 d+4 6 " ++
    "2+9 2+c 2+4 2 2+1 2+1 2+2z y+3u 7+61 j+1r 3+1h 15+9 3c 2 4 2 2 2 2+3h 11+p 7+p c+1j " ++
    "3+u 4+5 3+5 3+5 3+2 10+b 2+p 2+i 2+1 2+e 3+d z+3e 1y+1g 7g+s 4+1c 1c+v e+t 6+11 b+t " ++
    "3+z 5+7 2+4 17+4d j+z 5+z 5+13 9+1f d+a 2+e 2+6 2+1 2+a 2+e 2+6 2+1 4+1f d+8m a+l b+7 " ++
    "p+5 2+15 2+8 1y+5 3 2+17 2+1 4 3+m b+m a+u 1u+i 2+1 b+l b+p 7+p 13+1j 7+1 1t g+3 2+2 " ++
    "2+s 17+s 4+s 10+7 2+r s+1h b+l b+i e+h 33+20 1k+1e e+1e e+z 13+r a+m 6z+15 7+1 h+5 " ++
    "1l+s b 9+l 17+h 1b+k s+m d+1g 1m+1 3 e+18 x+o r+z u 3 9+y 4 d+1b f+3 m 2 10+h 2+o k+1 " ++
    "1s+6 2 2+3 2+e 2+9 8+1a 13+7 3+1 3+l 2+6 2+1 2+4 4 j d+4 v+9 2 3 2+11 2 q 2 19+1g j+3 " ++
    "l+2 v+1b l+1 2 55+1a 16+3 11+1b l 1o+16 e 20+q 12+6 56+17 39+1r w+7 3 3+7 2+1 2+n g 2 " ++
    "2n+7 3+12 h 2 t b+13 8 m c+19 k j+20 5k+w w+8 2+10 i 1e+t 35+6 2+1 2+11 m q+5 2+1 2+v " ++
    "f o+17 79+i g 2+c 2+x 3h 28+pl 2v+32 i+5f 219+2o g+tr i+5 q+32y 6+g6 5a2+t 1cz+fs 8+u " ++
    "i+26 i+t j+1b h+3 w+k 6+i c1+18 5w+1r x+o 3+o 19+22 6 1v+c 1t+1 2 f+4 a+5p1 16+v 2q+36 " ++
    "6pq+3 2+6 2+1 2+82 g u+2 3 f+3 9+az 1s5+2y 6+c 4+8 8+9 4mf+2c 2+1y 2+1 3 3+1 3+3 2+b 2 " ++
    "2+6 2+1s 2+3 3+7 2+6 2+r 2+3 2+4 2 4+6 2+9f 3+o 2+o 2+u 2+o 2+u 2+o 2+u 2+o 2+u 2+o " ++
    "2+7 1f9+u 7+5 7a+1p 43+18 b+6 h 8y+t j+17 dh+r 6d+t 3 5s+u 2+2 2+1 2+6 3+4 a+1 69+6 " ++
    "2+3 2+1 2+e 2+5g 1o+1v 8 xh+3 2+q 2+1 2 3 2+9 2+3 2 2 7 5 2 2 2+2 2+1 2 3 2 2 2 2 2+1 " ++
    "2 3+3 2+6 2+3 2+3 2 2+9 2+g 6+2 2+4 2+g 3et+wyn x+3dp 3+4gd 3+5rk g+h9 1wj+f1 15v+3t6 " ++
    "6+6jt")]

/-- The ranges of a name in a table whose rows begin with all names of a class. -/
def find? (name : String) (table : List (String × String)) : Option Ranges :=
  (table.find? fun row => (Text.splitAt (· == ' ') row.1.toList).contains name.toList).map fun row =>
    decode row.2

/-- Groups of characters that differ only in case: the distance between first members, then those
between members. -/
def caseGroupTable : String :=
  "1t+w 1+w 1+w 1+w 1+w 1+w 1+w 1+w 1+w 1+w 1+w+6gv 1+w 1+w 1+w 1+w 1+w 1+w 1+w 1+w+7g 1+w " ++
  "1+w 1+w 1+w 1+w 1+w 1+w 2j+kn+w b+w 1+w 1+w 1+w 1+w 1+w+6di 1+w 1+w 1+w 1+w 1+w 1+w 1+w " ++
  "1+w 1+w 1+w 1+w 1+w 1+w 1+w 1+w 1+w 1+w 2+w 1+w 1+w 1+w 1+w 1+w 1+w 1+5vj w+3d 1+1 2+1 " ++
  "2+1 2+1 2+1 2+1 2+1 2+1 2+1 2+1 2+1 2+1 2+1 2+1 2+1 2+1 2+1 2+1 2+1 2+1 2+1 2+1 2+1 2+1 " ++
  "4+1 2+1 2+1 3+1 2+1 2+1 2+1 2+1 2+1 2+1 2+1 3+1 2+1 2+1 2+1 2+1 2+1 2+1 2+1 2+1 2+1 2+1 " ++
  "2+1 2+1 2+1 2+1 2+1 2+1 2+1 2+1 2+1 2+1 2+1 2+1 3+1 2+1 2+1 3+5f 1+5u 1+1 2+1 2+5q 1+1 " ++
  "2+5p 1+5p 1+1 3+27 1+5m 1+5n 1+1 2+5p 1+5r 1+2p 1+5v 1+5t 1+1 2+4j 1+wu9 1+5v 1+5x 1+3m " ++
  "1+5y 1+1 2+1 2+1 2+62 1+1 2+62 3+1 2+62 1+1 2+61 1+61 1+1 2+1 2+63 1+1 4+1 3+1k 5+1+1 " ++
  "3+1+1 3+1+1 3+1 2+1 2+1 2+1 2+1 2+1 2+1 2+1 3+1 2+1 2+1 2+1 2+1 2+1 2+1 2+1 2+1 3+1+1 " ++
  "3+1 4+1 2+1 2+1 2+1 2+1 2+1 2+1 2+1 2+1 2+1 2+1 2+1 2+1 2+1 2+1 2+1 2+1 2+1 2+1 2+1 4+1 " ++
  "2+1 2+1 2+1 2+1 2+1 2+1 2+1 2+1 8+8bv 1+1 3+8bs 1+8cf 1+8cf 1+1 3+1x 1+1z 1+1 2+1 2+1 " ++
  "2+1 2+1 2+8bj 1+8bg 1+8bi a+wnj 5+wnf 3+wo7 1+wmg 1+wn8 4+wn8 1+8af 1+wn5 5+8al c+89z " ++
  "5+wn7 5+wmi m+wlx 1+wlu 4n+2c+w+5j9 17+1 2+1 4+1 5+3m 1+3m 1+3m 2+38 7+12 2+11 1+11 1+11 " ++
  "2+1s 2+1r 1+1r 1+5kz 1+w 1+w+u 1+w 1+w 1+w+1s 1+w 1+w 1+w+p+z 2+w+1i 1+w 2+w 1+w 1+w " ++
  "1+w+m 1+w+1c 2+v+1 1+w 1+w 1+w+f 1+w 1+w 1+w+5st 1+w 1+w 5+5kj v+8 9+1 2+1 2+1 2+1 2+1 " ++
  "2+1 2+1 2+1 2+1 2+1 2+1 2+1 4+7 5+1 3+1 6+28 1+28 1+28 1+28 1+28 1+28 1+28 1+28 1+28 " ++
  "1+28 1+28 1+28 1+28 1+28 1+28 1+28 1+w 1+w 1+w+4su 1+w 1+w+4st 1+w 1+w 1+w 1+w 1+w 1+w " ++
  "1+w 1+w 1+w 1+w+4sk 1+w 1+w 1+w+4si 1+w+4si+1 1+w 1+w 1+w 1+w 1+w 1+w 1+w 1+w+4sc 1+w " ++
  "1+w 1+w 1+w 1+w 1d+1 2+1+4ro 2+1 2+1 2+1 2+1 2+1 2+1 2+1 2+1 2+1 2+1 2+1 2+1 2+1 2+1 2+1 " ++
  "a+1 2+1 2+1 2+1 2+1 2+1 2+1 2+1 2+1 2+1 2+1 2+1 2+1 2+1 2+1 2+1 2+1 2+1 2+1 2+1 2+1 2+1 " ++
  "2+1 2+1 2+1 2+1 2+1 2+f 1+1 2+1 2+1 2+1 2+1 2+1 2+1 3+1 2+1 2+1 2+1 2+1 2+1 2+1 2+1 2+1 " ++
  "2+1 2+1 2+1 2+1 2+1 2+1 2+1 2+1 2+1 2+1 2+1 2+1 2+1 2+1 2+1 2+1 2+1 2+1 2+1 2+1 2+1 2+1 " ++
  "2+1 2+1 2+1 2+1 2+1 2+1 2+1 2+1 2+1 2+1 2+1 2+1 2+1 2+1 2+1 2+1 2+1 3+1c 1+1c 1+1c 1+1c " ++
  "1+1c 1+1c 1+1c 1+1c 1+1c 1+1c 1+1c 1+1c 1+1c 1+1c 1+1c 1+1c 1+1c 1+1c 1+1c 1+1c 1+1c " ++
  "1+1c 1+1c 1+1c 1+1c 1+1c 1+1c 1+1c 1+1c 1+1c 1+1c 1+1c 1+1c 1+1c 1+1c 1+1c 1+1c 1+1c " ++
  "28a+5ls 1+5ls 1+5ls 1+5ls 1+5ls 1+5ls 1+5ls 1+5ls 1+5ls 1+5ls 1+5ls 1+5ls 1+5ls 1+5ls " ++
  "1+5ls 1+5ls 1+5ls 1+5ls 1+5ls 1+5ls 1+5ls 1+5ls 1+5ls 1+5ls 1+5ls 1+5ls 1+5ls 1+5ls " ++
  "1+5ls 1+5ls 1+5ls 1+5ls 1+5ls 1+5ls 1+5ls 1+5ls 1+5ls 1+5ls 2+5ls 6+5ls 3+2bk 1+2bk " ++
  "1+2bk 1+2bk 1+2bk 1+2bk 1+2bk 1+2bk 1+2bk 1+2bk 1+2bk 1+2bk 1+2bk 1+2bk 1+2bk 1+2bk " ++
  "1+2bk 1+2bk 1+2bk 1+2bk 1+2bk 1+2bk 1+2bk 1+2bk 1+2bk 1+2bk 1+2bk 1+2bk 1+2bk 1+2bk " ++
  "1+2bk 1+2bk 1+2bk 1+2bk 1+2bk 1+2bk 1+2bk 1+2bk 1+2bk 1+2bk 1+2bk 1+2bk 1+2bk 3+2bk " ++
  "1+2bk 1+2bk ip+tzk 1+tzk 1+tzk 1+tzk 1+tzk 1+tzk 1+tzk 1+tzk 1+tzk 1+tzk 1+tzk 1+tzk " ++
  "1+tzk 1+tzk 1+tzk 1+tzk 1+tzk 1+tzk 1+tzk 1+tzk 1+tzk 1+tzk 1+tzk 1+tzk 1+tzk 1+tzk " ++
  "1+tzk 1+tzk 1+tzk 1+tzk 1+tzk 1+tzk 1+tzk 1+tzk 1+tzk 1+tzk 1+tzk 1+tzk 1+tzk 1+tzk " ++
  "1+tzk 1+tzk 1+tzk 1+tzk 1+tzk 1+tzk 1+tzk 1+tzk 1+tzk 1+tzk 1+tzk 1+tzk 1+tzk 1+tzk " ++
  "1+tzk 1+tzk 1+tzk 1+tzk 1+tzk 1+tzk 1+tzk 1+tzk 1+tzk 1+tzk 1+tzk 1+tzk 1+tzk 1+tzk " ++
  "1+tzk 1+tzk 1+tzk 1+tzk 1+tzk 1+tzk 1+tzk 1+tzk 1+tzk 1+tzk 1+tzk 1+tzk 1+8 1+8 1+8 1+8 " ++
  "1+8 1+8 1oz+r7m+1 1+1 6o+r9g 4+2xy h+raw 36+1 2+1 2+1 2+1 2+1 2+1 2+1 2+1 2+1 2+1 2+1 " ++
  "2+1 2+1 2+1 2+1 2+1 2+1 2+1 2+1 2+1 2+1 2+1 2+1 2+1 2+1 2+1 2+1 2+1 2+1 2+1 2+1 2+1 2+1 " ++
  "2+1 2+1 2+1 2+1 2+1 2+1 2+1 2+1 2+1 2+1 2+1 2+1 2+1 2+1 2+1 2+1+1m 2+1 2+1 2+1 2+1 2+1 " ++
  "2+1 2+1 2+1 2+1 2+1 2+1 2+1 2+1 2+1 2+1 2+1 2+1 2+1 2+1 2+1 2+1 2+1 2+1 2+1 2+1 2+1 c+1 " ++
  "2+1 2+1 2+1 2+1 2+1 2+1 2+1 2+1 2+1 2+1 2+1 2+1 2+1 2+1 2+1 2+1 2+1 2+1 2+1 2+1 2+1 2+1 " ++
  "2+1 2+1 2+1 2+1 2+1 2+1 2+1 2+1 2+1 2+1 2+1 2+1 2+1 2+1 2+1 2+1 2+1 2+1 2+1 2+1 2+1 2+1 " ++
  "2+1 2+1 2+1 2+8 1+8 1+8 1+8 1+8 1+8 1+8 1+8 9+8 1+8 1+8 1+8 1+8 1+8 b+8 1+8 1+8 1+8 1+8 " ++
  "1+8 1+8 1+8 9+8 1+8 1+8 1+8 1+8 1+8 1+8 1+8 9+8 1+8 1+8 1+8 1+8 1+8 c+8 2+8 2+8 2+8 9+8 " ++
  "1+8 1+8 1+8 1+8 1+8 1+8 1+8 9+22 1+22 1+2e 1+2e 1+2e 1+2e 1+2s 1+2s 1+3k 1+3k 1+34 1+34 " ++
  "1+3i 1+3i 3+8 1+8 1+8 1+8 1+8 1+8 1+8 1+8 9+8 1+8 1+8 1+8 1+8 1+8 1+8 1+8 9+8 1+8 1+8 " ++
  "1+8 1+8 1+8 1+8 1+8 9+8 1+8 2+9 g+9 d+8 1+8 f+8 1+8 4+7 e+9 8v+s 1a+g 1+g 1+g 1+g 1+g " ++
  "1+g 1+g 1+g 1+g 1+g 1+g 1+g 1+g 1+g 1+g 1+g k+1 mr+q 1+q 1+q 1+q 1+q 1+q 1+q 1+q 1+q 1+q " ++
  "1+q 1+q 1+q 1+q 1+q 1+q 1+q 1+q 1+q 1+q 1+q 1+q 1+q 1+q 1+q 1+q 1f5+1c 1+1c 1+1c 1+1c " ++
  "1+1c 1+1c 1+1c 1+1c 1+1c 1+1c 1+1c 1+1c 1+1c 1+1c 1+1c 1+1c 1+1c 1+1c 1+1c 1+1c 1+1c " ++
  "1+1c 1+1c 1+1c 1+1c 1+1c 1+1c 1+1c 1+1c 1+1c 1+1c 1+1c 1+1c 1+1c 1+1c 1+1c 1+1c 1+1c " ++
  "1+1c 1+1c 1+1c 1+1c 1+1c 1+1c 1+1c 1+1c 1+1c 1+1c 1d+1 7+1 2+1 2+1 7+1 3+1 b+1 2+1 2+1 " ++
  "2+1 2+1 2+1 2+1 2+1 2+1 2+1 2+1 2+1 2+1 2+1 2+1 2+1 2+1 2+1 2+1 2+1 2+1 2+1 2+1 2+1 2+1 " ++
  "2+1 2+1 2+1 2+1 2+1 2+1 2+1 2+1 2+1 2+1 2+1 2+1 2+1 2+1 2+1 2+1 2+1 2+1 2+1 2+1 2+1 2+1 " ++
  "2+1 2+1 2+1 9+1 2+1 5+1 nym+1 2+1 2+1 2+1 2+1 4+1 2+1 2+1 2+1 2+1 2+1 2+1 2+1 2+1 2+1 " ++
  "2+1 2+1 2+1 2+1 2+1 2+1 2+1 k+1 2+1 2+1 2+1 2+1 2+1 2+1 2+1 2+1 2+1 2+1 2+1 2+1 2+1 3s+1 " ++
  "2+1 2+1 2+1 2+1 2+1 2+1 4+1 2+1 2+1 2+1 2+1 2+1 2+1 2+1 2+1 2+1 2+1 2+1 2+1 2+1 2+1 2+1 " ++
  "2+1 2+1 2+1 2+1 2+1 2+1 2+1 2+1 2+1 2+1 2+1 2+1 2+1 2+1 2+1 b+1 2+1 3+1 2+1 2+1 2+1 2+1 " ++
  "5+1 5+1 2+1 2+1c 2+1 2+1 2+1 2+1 2+1 2+1 2+1 2+1 2+1 2+1 b+ps 1+1 2+1 2+1 2+1 2+1 2+1 " ++
  "2+1 2+1 5+1 2+1 3+1 2+1 2+1 2+1 2+1 2+1 2+1 2+1 r+1 geo+1 t8+w 1+w 1+w 1+w 1+w 1+w 1+w " ++
  "1+w 1+w 1+w 1+w 1+w 1+w 1+w 1+w 1+w 1+w 1+w 1+w 1+w 1+w 1+w 1+w 1+w 1+w 1+w xy+14 1+14 " ++
  "1+14 1+14 1+14 1+14 1+14 1+14 1+14 1+14 1+14 1+14 1+14 1+14 1+14 1+14 1+14 1+14 1+14 " ++
  "1+14 1+14 1+14 1+14 1+14 1+14 1+14 1+14 1+14 1+14 1+14 1+14 1+14 1+14 1+14 1+14 1+14 " ++
  "1+14 1+14 1+14 1+14 3t+14 1+14 1+14 1+14 1+14 1+14 1+14 1+14 1+14 1+14 1+14 1+14 1+14 " ++
  "1+14 1+14 1+14 1+14 1+14 1+14 1+14 1+14 1+14 1+14 1+14 1+14 1+14 1+14 1+14 1+14 1+14 " ++
  "1+14 1+14 1+14 1+14 1+14 1+14 4d+13 1+13 1+13 1+13 1+13 1+13 1+13 1+13 1+13 1+13 1+13 " ++
  "2+13 1+13 1+13 1+13 1+13 1+13 1+13 1+13 1+13 1+13 1+13 1+13 1+13 1+13 1+13 2+13 1+13 " ++
  "1+13 1+13 1+13 1+13 1+13 2+13 1+13 1d7+1s 1+1s 1+1s 1+1s 1+1s 1+1s 1+1s 1+1s 1+1s 1+1s " ++
  "1+1s 1+1s 1+1s 1+1s 1+1s 1+1s 1+1s 1+1s 1+1s 1+1s 1+1s 1+1s 1+1s 1+1s 1+1s 1+1s 1+1s " ++
  "1+1s 1+1s 1+1s 1+1s 1+1s 1+1s 1+1s 1+1s 1+1s 1+1s 1+1s 1+1s 1+1s 1+1s 1+1s 1+1s 1+1s " ++
  "1+1s 1+1s 1+1s 1+1s 1+1s 1+1s 1+1s 4e+w 1+w 1+w 1+w 1+w 1+w 1+w 1+w 1+w 1+w 1+w 1+w 1+w " ++
  "1+w 1+w 1+w 1+w 1+w 1+w 1+w 1+w 1+w 27v+w 1+w 1+w 1+w 1+w 1+w 1+w 1+w 1+w 1+w 1+w 1+w " ++
  "1+w 1+w 1+w 1+w 1+w 1+w 1+w 1+w 1+w 1+w 1+w 1+w 1+w 1+w 1+w 1+w 1+w 1+w 1+w 1+w gw1+w " ++
  "1+w 1+w 1+w 1+w 1+w 1+w 1+w 1+w 1+w 1+w 1+w 1+w 1+w 1+w 1+w 1+w 1+w 1+w 1+w 1+w 1+w 1+w " ++
  "1+w 1+w 1+w 1+w 1+w 1+w 1+w 1+w 1+w 1t+r 1+r 1+r 1+r 1+r 1+r 1+r 1+r 1+r 1+r 1+r 1+r 1+r " ++
  "1+r 1+r 1+r 1+r 1+r 1+r 1+r 1+r 1+r 1+r 1+r 1+r o5k+y 1+y 1+y 1+y 1+y 1+y 1+y 1+y 1+y " ++
  "1+y 1+y 1+y 1+y 1+y 1+y 1+y 1+y 1+y 1+y 1+y 1+y 1+y 1+y 1+y 1+y 1+y 1+y 1+y 1+y 1+y 1+y " ++
  "1+y 1+y 1+y"

/-- The members of a group, from distances. -/
def membersFrom (c : Nat) : List Nat → List Nat
  | [] => [c]
  | d :: rest => c :: membersFrom (c + d) rest

def groupsAfter (first : Nat) : List (List Nat) → List (List Nat)
  | [] => []
  | (d :: rest) :: entries => membersFrom (first + d) rest :: groupsAfter (first + d) entries
  | [] :: entries => groupsAfter first entries

/-- Groups of characters that differ only in case. -/
def caseGroups : List (List Nat) := groupsAfter 0 (entries caseGroupTable)

end Property

end Recast.Pattern
