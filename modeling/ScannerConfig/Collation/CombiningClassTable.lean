/-!
Canonical combining classes other than zero. A row holds the distance from the run before, the
number of code points and their class.
-/

namespace ScannerConfig.Collation

def combiningClassTable : String :=
  "lc l 6e,0 1 6g,0 4 64,0 1 6g,0 1 60,0 5 64,0 2 5m,0 4 64,0 2 5m,0 b 64,0 5 1,0 4 64,0 8 6e,
  0 1 6o,0 1 6e,0 3 64,0 3 6e,0 2 64,1 3 6e,0 4 64,0 1 6e,0 1 6g,0 2 64,0 1 6e,0 1 6h,0 2 6i,
  0 1 6h,0 2 6i,0 1 6h,0 d 6e,7n 5 6e,7d 1 64,0 4 6e,0 1 64,0 3 6e,0 1 66,0 1 64,0 6 6e,0 6 64,
  0 2 6e,0 1 64,0 2 6e,0 1 66,0 1 6c,0 1 6e,0 1 a,0 1 b,0 1 c,0 1 d,0 1 e,0 1 f,0 1 g,0 1 h,
  0 1 i,0 2 j,0 1 k,0 1 l,0 1 m,1 1 n,1 1 o,0 1 p,1 1 6e,0 1 64,1 1 i,20 8 6e,0 1 u,0 1 v,
  0 1 w,1c 1 r,0 1 s,0 1 t,0 1 u,0 1 v,0 1 w,0 1 x,0 1 y,0 2 6e,0 2 64,0 5 6e,0 1 64,0 2 6e,
  0 1 64,g 1 z,2t 7 6e,2 4 6e,0 1 64,0 1 6e,2 2 6e,1 1 64,0 2 6e,0 1 64,z 1 10,u 1 6e,0 1 64,
  0 2 6e,0 1 64,0 2 6e,0 3 64,0 1 6e,0 2 64,0 1 6e,0 1 64,0 3 6e,0 1 64,0 1 6e,0 1 64,0 1 6e,
  0 1 64,0 1 6e,0 1 64,0 2 6e,4g 7 6e,0 1 64,0 1 6e,9 1 64,o 4 6e,1 9 6e,1 3 6e,1 5 6e,17 3 64,
  1o 1 6e,0 3 64,0 4 6e,16 5 6e,0 5 64,0 e 6e,1 1 64,0 2 6e,0 1 64,0 2 6e,0 1 64,0 3 6e,0 3 64,
  0 1 r,0 1 s,0 1 t,0 3 6e,0 1 64,0 2 6e,0 2 64,0 5 6e,1o 1 7,g 1 9,3 1 6e,0 1 64,0 2 6e,
  2v 1 7,g 1 9,1c 1 6e,1p 1 7,g 1 9,32 1 7,g 1 9,32 1 7,g 1 9,3j 1 9,32 1 7,g 1 9,7 1 2c,
  0 1 2j,2t 1 7,g 1 9,31 2 9,g 1 9,3g 1 9,31 2 2v,0 1 9,d 4 2z,30 2 3a,0 1 9,d 4 3e,24 2 64,
  r 1 64,1 1 64,1 1 60,1j 1 3l,0 1 3m,1 1 3o,5 4 3m,2 1 3m,1 2 6e,0 1 9,1 2 6e,1q 1 64,34 1 7,
  1 2 9,2a 1 64,jz 3 6e,qc 2 9,u 1 9,4d 1 9,a 1 6e,5n 1 6c,3z 1 66,0 1 6e,0 1 64,63 1 6e,
  0 1 64,1z 1 9,k 8 6e,2 1 64,1c 5 6e,0 6 64,0 2 6e,0 1 64,1 2 64,0 2 6e,0 2 64,0 5 6e,0 1 64,
  0 4 6e,2t 1 7,f 1 9,12 1 6e,0 1 64,0 7 6e,1i 2 9,1m 1 7,b 2 9,1v 1 7,48 3 6e,1 1 1,0 5 64,
  0 2 6e,0 4 64,0 1 6e,1 7 1,4 1 64,6 1 6e,3 2 6e,5i 2 6e,0 1 64,0 7 6e,0 1 64,0 2 6e,0 1 6i,
  0 1 5y,0 1 64,0 1 5m,0 11 6e,0 1 6g,0 2 6c,0 1 64,0 1 62,0 1 6e,0 1 6h,0 1 64,0 1 6e,0 1 64,
  k0 2 6e,0 2 1,0 4 6e,0 3 1,0 2 6e,4 1 6e,3 2 1,0 1 6e,0 1 64,0 1 6e,0 2 1,0 4 64,0 1 6e,
  2da 3 6e,3x 1 9,2o w 6e,fe 1 62,0 1 6c,0 1 6g,0 1 66,0 2 68,2x 2 8,n9w 1 6e,4 a 6e,w 2 6e,
  28 2 6e,7o 1 9,11 1 9,47 1 9,r i 6e,1l 3 64,11 1 9,2n 1 7,c 1 9,6n 1 6e,1 2 6e,0 1 64,2 2 6e,
  5 2 6e,1 1 6e,1g 1 9,6u 1 9,fn4 1 q,ld 7 6e,0 7 64,0 2 6e,r1 1 64,6a 1 64,45 5 6e,1aq 1 64,
  1 1 6e,14 1 6e,0 1 1,0 1 64,4 1 9,4l 1 6e,0 1 64,fx 4 6e,ar 2 6e,28 3 64,1y 2 64,0 3 6e,
  0 1 64,0 1 6e,0 4 64,1d 1 6e,0 1 64,0 1 6e,0 1 64,5c 1 9,15 1 9,e 1 9,1l 1 9,0 1 7,1x 3 6e,
  1c 2 9,1q 1 7,24 1 9,9 1 7,2y 1 9,0 1 7,4y 1 7,0 1 9,28 2 7,g 1 9,o 7 6e,3 5 6e,5p 1 9,3 1 7,
  n 1 6e,2r 1 9,0 1 7,6z 1 9,0 1 7,3i 1 9,3a 1 9,0 1 7,37 1 9,7h 1 9,0 1 7,76 2 9,4 1 7,4c 1 9,
  2b 1 9,i 1 9,29 1 9,bp 1 9,76 1 7,1 2 9,29 1 9,bt 2 9,ey5 5 1,1n 7 6e,xl 2 6,f58 1 1,
  43q 2 60,0 3 1,3 1 6a,0 5 60,8 8 64,2 5 6e,0 2 64,u 4 6e,44 3 6e,2pn 7 6e,1 h 6e,2 7 6e,
  1 2 6e,1 5 6e,2s 1 6e,4g 7 6e,af 1 6e,1p 4 6e,e4 2 6g,0 1 64,0 1 6e,rk 7 64,31 6 6e,0 1 7,"

end ScannerConfig.Collation
