/-!
Collation weights of the root collation. A row holds the distance from the run before, the
number of code points, the step of the primary weight from one to the next, and then primary,
secondary and tertiary weights in turn. Printable ASCII characters and ideographs have no row.
-/

namespace ScannerConfig.Collation

def weightTable : String :=
  "0 9 0 0 0 0,0 5 1 2 1 2,0 i 0 0 0 0,2n 6 0 0 0 0,0 1 0 7 1 2,0 q 0 0 0 0,0 1 0 a 1 l,
  0 1 0 2y 1 2,0 1 0 5ma 1 2,0 1 0 5mc 1 2,0 1 0 5m9 1 2,0 1 0 5md 1 2,0 1 0 xd 1 2,
  0 1 0 c0 1 2,0 1 0 kb 1 2,0 1 0 t0 1 2,0 1 0 624 1 n,0 1 0 8k 1 2,0 1 0 xb 1 2,0 1 0 0 0 0,
  0 1 0 t2 1 2,0 1 0 k8 1 2,0 1 0 nr 1 2,0 1 0 x5 1 2,0 2 1 61w 1 i,0 1 0 k5 1 2,0 1 0 6el 1 3,
  0 1 0 c2 1 2,0 1 0 47 1 2,0 1 0 ke 1 2,0 1 0 61v 1 i,0 1 0 67h 1 n,0 1 0 8l 1 2,
  0 1 0 61v 1 s xk 1 g 61y 1 s,0 1 0 61v 1 s xk 1 g 61w 1 s,0 1 0 61x 1 s xk 1 g 61y 1 s,
  0 1 0 35 1 2,6 1 0 624 2 g 63h 1 h,9 1 0 633 2 g,6 1 0 x7 1 2,0 1 0 67h 1 d 0 s 2,
  5 1 0 6cp 1 g,0 1 0 69r 2 2 69r 1 4,6 1 0 624 2 2 63h 1 4,9 1 0 633 2 2,6 1 0 x6 1 2,
  0 1 0 67h 1 2 0 s 2,5 1 0 6cp 1 2,h 1 0 633 1 d 0 12 2,0 1 0 633 1 2 0 12 2,
  k 1 0 64s 1 d 0 12 2,0 1 0 64s 1 2 0 12 2,9 1 0 655 1 2,0 1 0 654 1 h 65h 1 h,
  0 1 0 654 1 4 65h 1 4,4 1 0 68t 1 2,6 1 0 65z 1 d 0 7d 2,0 1 0 65z 1 2 0 7d 2,
  0 1 0 65z 1 d 0 12 2,0 1 0 65z 1 2 0 12 2,6 1 0 6dd 1 g 66z 1 4,0 1 0 67d 1 e,0 1 0 67d 1 2,
  6 1 0 67h 2 g 63h 1 h,0 1 0 67h 2 2 63h 1 4,i 1 0 6ae 1 g,0 1 0 6ae 1 2,n 1 0 69r 5 2,
  0 1 0 62k 1 2,0 2 1 62q 1 g,0 1 0 62r 1 2,0 1 0 6d9 1 g,0 1 0 6d9 1 2,0 1 0 67v 1 g,
  0 1 0 62z 1 g,0 1 0 62z 1 2,0 2 1 639 1 g,0 1 0 63d 1 g,0 1 0 63d 1 2,0 1 0 6c7 1 4 6bn 1 5,
  0 1 0 63p 1 g,0 1 0 63r 1 c,0 1 0 63t 1 3,0 1 0 64a 1 g,0 1 0 64a 1 2,0 1 0 64l 1 g,
  0 1 0 64q 1 g,0 1 0 64u 1 2,0 1 0 65f 1 g,0 1 0 65a 1 g,0 1 0 65r 1 g,0 1 0 65r 1 2,
  0 1 0 664 1 2,0 1 0 66n 1 2,0 1 0 6b8 1 g,0 1 0 674 1 g,0 1 0 675 1 2,0 1 0 685 1 g,
  2 1 0 64r 1 g,0 1 0 64r 1 2,0 1 0 68h 1 g,0 1 0 68h 1 2,0 1 0 68w 1 e,0 1 0 6d7 1 g,
  0 1 0 6d7 1 2,0 1 0 6a3 1 e,0 1 0 6a7 1 2,0 1 0 6ah 1 2,0 1 0 6ai 1 g,0 1 0 6ai 1 2,
  0 1 0 6aj 1 g,2 1 0 6bc 1 g,0 1 0 6bi 1 g,0 1 0 6c3 1 g,0 1 0 6c3 1 2,0 1 0 6c9 1 g,
  0 1 0 6c9 1 2,0 1 0 6ci 1 e,0 1 0 6ck 1 g,0 1 0 6ck 1 2,0 1 0 6cn 1 2,0 1 0 6d3 1 2,
  0 1 0 6d8 1 g,0 1 0 6d8 1 2,0 1 0 6ac 1 4 69r 1 4,0 1 0 6ct 1 2,0 4 1 6dt 1 2,
  0 1 0 633 1 h 6c7 1 h 0 l g,0 1 0 633 1 h 6c7 1 4 0 l g,0 1 0 633 1 4 6c7 1 4 0 l g,
  0 1 0 65z 1 h 65h 1 h,0 1 0 65z 1 h 65h 1 4,0 1 0 65z 1 4 65h 1 4,0 1 0 66z 1 h 65h 1 h,
  0 1 0 66z 1 h 65h 1 4,0 1 0 66z 1 4 65h 1 4,g 1 0 63p 1 2,6 1 0 64j 1 g,0 1 0 64j 1 2,
  b 1 0 633 1 h 6c7 1 h,0 1 0 633 1 h 6c7 1 4,0 1 0 633 1 4 6c7 1 4,2 1 0 64u 1 g,
  0 1 0 6ct 1 g,10 1 0 6c6 1 g,0 1 0 6c6 1 2,2 1 0 675 1 g,0 1 0 63e 1 2,0 1 0 689 1 g,
  0 1 0 689 1 2,0 1 0 6cc 1 g,0 1 0 6cc 1 2,e 1 0 66i 1 2,0 1 0 67a 1 2,0 1 0 6am 1 2,
  0 1 0 65i 1 2,0 1 0 633 1 4 62i 1 4,0 1 0 68n 1 4 68b 1 4,0 1 0 626 1 g,0 1 0 62v 1 g,
  0 1 0 62v 1 2,0 1 0 664 1 g,0 1 0 6af 1 g,0 1 0 69z 1 2,0 1 0 6cf 1 2,0 1 0 6db 1 g,
  0 1 0 6db 1 2,0 1 0 62k 1 g,0 1 0 6ay 1 g,0 1 0 6bm 1 g,0 1 0 63l 1 g,0 1 0 63l 1 2,
  0 1 0 65k 1 g,0 1 0 65k 1 2,0 1 0 68s 1 g,0 1 0 68s 1 2,0 1 0 68z 1 g,0 1 0 68z 1 2,
  0 1 0 6c2 1 g,0 1 0 6c2 1 2,0 2 1 62c 1 2,0 1 0 62g 1 2,0 1 0 62q 1 2,0 1 0 67v 1 2,
  0 1 0 630 1 2,0 2 1 639 1 2,0 1 0 63v 1 2,0 1 0 63r 1 2,0 1 0 63w 1 2,0 1 0 63t 1 2,
  0 1 0 63x 1 2,0 2 1 640 1 2,0 1 0 65m 1 2,0 1 0 64l 1 2,0 1 0 64f 1 2,0 1 0 64i 1 2,
  0 1 0 64q 1 2,0 1 0 643 1 2,0 1 0 6b5 1 2,0 1 0 64w 1 2,0 1 0 651 1 2,0 1 0 65a 1 2,
  0 1 0 65f 1 2,0 1 0 656 1 2,0 1 0 666 1 2,0 1 0 669 1 2,0 1 0 66e 1 2,0 1 0 66k 1 2,
  0 1 0 6b8 1 2,0 1 0 6bb 1 2,0 1 0 66u 1 2,0 1 0 674 1 2,0 1 0 678 1 2,0 1 0 670 1 2,
  0 1 0 685 1 2,0 1 0 67l 1 2,0 1 0 687 1 2,0 1 0 68l 1 2,0 1 0 691 1 2,0 1 0 693 1 2,
  0 1 0 695 1 2,0 2 1 698 1 2,0 1 0 69c 1 2,0 1 0 69f 1 2,0 1 0 68w 1 2,0 1 0 69l 1 2,
  0 1 0 69w 1 2,0 1 0 6a3 1 2,0 1 0 65n 1 2,0 2 1 6a8 1 2,0 1 0 6ao 1 2,0 1 0 6aj 1 2,
  0 1 0 6ay 1 2,0 1 0 6bc 1 2,0 1 0 6bi 1 2,0 1 0 6bm 1 2,0 1 0 6bq 1 2,0 1 0 66o 1 2,
  0 1 0 6c1 1 2,0 2 1 6cd 1 2,0 1 0 6ci 1 2,0 1 0 6co 1 2,0 1 0 6da 1 2,0 1 0 6dj 1 2,
  0 1 0 6dr 1 2,0 1 0 6dy 1 2,0 1 0 6e0 1 2,0 1 0 62j 1 2,0 1 0 642 1 2,0 1 0 64m 1 2,
  0 1 0 64t 1 2,0 1 0 65l 1 2,0 1 0 65x 1 2,0 1 0 660 1 2,0 1 0 68r 1 2,0 2 1 6dp 1 2,
  0 1 0 633 1 4 6c7 1 4,0 1 0 633 1 4 6ci 1 3,0 1 0 633 1 4 6ce 1 g,0 1 0 6ac 1 4 69r 1 4,
  0 1 0 6ac 1 4 6a3 1 3,0 1 0 6ac 1 4 630 1 g,0 1 0 644 1 4 67d 1 3,0 1 0 65z 1 4 69r 1 4,
  0 1 0 65z 1 4 6c7 1 4,0 2 1 6e1 1 2,0 2 1 6b6 1 2,0 1 0 64s 1 n,0 1 0 64w 1 p,0 1 0 65h 1 n,
  0 1 0 68u 1 n,0 1 0 691 1 g,0 1 0 695 1 g,0 1 0 69l 1 g,0 1 0 6bn 1 t,0 1 0 6c0 1 n,
  0 1 0 kl 1 2,0 1 0 kn 1 2,0 1 0 652 1 2,0 1 0 6dd 1 2,0 1 0 653 1 2,0 1 0 6df 1 2,
  0 1 0 6dk 1 2,0 1 0 6dc 1 2,0 1 0 6dl 1 2,0 e 1 ko 1 2,0 2 1 5lh 1 2,0 4 1 l2 1 2,
  0 2 1 l8 1 2,0 2 1 k9 1 2,0 1 0 kc 1 2,0 1 0 kf 1 2,0 1 0 k6 1 2,0 1 0 kd 1 2,0 2 1 la 1 2,
  0 1 0 64q 1 p,0 1 0 65z 1 n,0 1 0 69r 1 n,0 1 0 6br 1 n,0 1 0 6dj 1 g,0 9 1 lc 1 2,
  0 1 0 6de 1 2,0 h 1 ll 1 2,0 1 0 0 i 2,0 1 0 0 h 2,0 1 0 0 k 2,0 1 0 0 q 2,0 1 0 0 v 2,
  0 1 0 0 13 2,0 1 0 0 j 2,0 1 0 0 r 2,0 1 0 0 o 2,0 1 0 0 14 2,0 1 0 0 m 2,0 1 0 0 p 2,
  0 1 0 0 l 2,0 2 0 0 w 2,0 1 0 0 15 2,0 1 0 0 16 2,0 1 0 0 17 2,0 1 0 0 w 2,0 1 0 0 f 2,
  0 1 0 0 g 2,0 1 0 0 w 2,0 4 0 0 x 2,0 1 0 0 w 2,0 1 0 0 18 2,0 5 0 0 x 2,0 1 0 0 19 2,
  0 1 0 0 1a 2,0 1 0 0 1b 2,0 1 0 0 1c 2,0 1 0 0 1d 2,0 1 0 0 1e 2,0 1 0 0 t 2,0 1 0 0 u 2,
  0 4 0 0 x 2,0 1 0 0 1f 2,0 1 0 0 1g 2,0 1 0 0 x 2,0 1 0 0 1h 2,0 1 0 0 1i 2,0 1 0 0 e 2,
  0 1 0 0 x 2,0 1 0 0 1j 2,0 1 0 0 12 2,0 2 0 0 y 2,0 1 0 0 s 2,0 1 0 0 1k 2,0 3 0 0 x 2,
  0 3 0 0 w 2,2 1 0 0 n 2,2 1 0 0 1l 2,0 1 0 0 w 2,0 3 0 0 x 2,0 3 0 0 w 2,0 2 0 0 x 2,
  0 1 0 0 0 0,0 3 0 0 w 2,0 4 0 0 x 2,0 1 0 0 w 2,0 1 0 0 1m 2,0 2 0 0 x 2,0 1 0 0 w 2,
  0 1 0 0 x 2,0 2 0 0 w 2,0 1 0 0 x 2,0 1 0 0 1n 2,0 1 0 0 1o 2,0 1 0 0 x 2,0 1 0 624 1 4,
  0 1 0 63h 1 4,0 1 0 654 1 4,0 1 0 67h 1 4,0 1 0 6aq 1 4,0 1 0 62t 1 4,0 1 0 633 1 4,
  0 1 0 64s 1 4,0 1 0 66q 1 4,0 1 0 68u 1 4,0 1 0 6ac 1 4,0 1 0 6be 1 4,0 1 0 6br 1 4,
  0 1 0 6ed 1 g,0 1 0 6ed 1 2,0 1 0 6fa 1 g,0 1 0 6fa 1 2,1 1 0 km 1 2,0 1 0 6ea 1 g,
  0 1 0 6ea 1 2,2 1 0 6eg 1 3,0 1 0 6ez 1 2,0 1 0 6ey 1 2,0 1 0 6f0 1 2,1 1 0 6eh 1 g,
  4 1 0 k5 1 2,c 1 0 6e3 1 k,0 1 0 6e4 1 e,0 1 0 6e5 1 9,0 1 0 6e7 1 c,0 1 0 6e8 1 k,
  0 1 0 6ec 1 e,0 2 1 6ee 1 e,0 1 0 6eg 1 k,0 1 0 6ei 1 g,0 1 0 6ej 1 e,0 1 0 6el 1 g,
  0 3 1 6em 1 e,0 1 0 6ep 1 k,0 1 0 6eu 1 g,1 1 0 6ex 1 e,0 1 0 6f1 1 e,0 1 0 6f2 1 c,
  0 1 0 6f3 1 e,0 1 0 6f4 1 9,0 1 0 6f5 1 e,0 1 0 6f7 1 c,7 3 1 6e3 1 2,0 2 1 6e7 1 2,
  0 1 0 6ec 1 2,0 3 1 6ee 1 2,0 2 1 6ei 1 2,0 5 1 6el 1 2,0 1 0 6eu 1 2,0 1 0 6ex 1 s,
  0 1 0 6ex 1 2,0 5 1 6f1 1 2,0 1 0 6f7 1 2,5 1 0 6ei 1 l 6e3 1 3 6eg 1 3,0 1 0 6e4 1 3,
  0 1 0 6ef 1 3,0 1 0 6f2 1 k,2 1 0 6f3 1 3,0 1 0 6ep 1 3,0 1 0 6ei 1 3 6e3 1 3 6eg 1 3,
  0 1 0 6et 1 g,0 1 0 6et 1 2,0 1 0 6eb 1 g,0 1 0 6eb 1 2,0 1 0 6e9 1 e,0 1 0 6e9 1 2,
  0 1 0 6es 1 g,0 1 0 6es 1 2,0 1 0 6f9 1 g,0 1 0 6f9 1 2,0 1 0 6g7 1 g,0 1 0 6g7 1 2,
  0 1 0 6gc 1 g,0 1 0 6gc 1 2,0 1 0 6gd 1 g,0 1 0 6gd 1 2,0 1 0 6gg 1 g,0 1 0 6gg 1 2,
  0 1 0 6gn 1 g,0 1 0 6gn 1 2,0 1 0 6gq 1 g,0 1 0 6gq 1 2,0 1 0 6gu 1 g,0 1 0 6gu 1 2,
  0 1 0 6ei 1 3,0 1 0 6eu 1 3,0 1 0 6ex 1 3,0 1 0 6eh 1 2,0 1 0 6ef 1 j,0 1 0 6e8 1 3,
  0 1 0 wz 1 2,0 1 0 6fb 1 g,0 1 0 6fb 1 2,0 1 0 6ex 1 j,0 1 0 6er 1 g,0 1 0 6er 1 2,
  0 1 0 6ew 1 2,0 1 0 6ez 1 g,0 1 0 6ey 1 g,0 1 0 6f0 1 g,2 1 0 6hd 1 g,1 1 0 6hi 1 p,
  0 1 0 6hs 1 g,0 1 0 6i0 1 c,1 1 0 6i3 1 g,0 1 0 6ij 1 g,0 1 0 6ix 1 g,0 1 0 6jg 1 g,
  3 1 0 6kd 1 g,0 1 0 6h0 1 c,0 3 1 6h3 1 c,0 1 0 6ha 1 c,0 1 0 6hh 1 c,0 1 0 6hj 1 c,
  0 1 0 6hn 1 c,0 1 0 6hy 1 c,1 1 0 6i5 1 c,0 1 0 6id 1 c,0 1 0 6in 1 e,0 1 0 6iq 1 e,
  0 1 0 6iz 1 9,0 1 0 6j1 1 c,0 1 0 6j5 1 e,0 1 0 6j8 1 c,0 1 0 6jb 1 e,0 1 0 6jh 1 c,
  0 2 1 6jm 1 c,0 1 0 6jz 1 c,0 1 0 6k4 1 c,0 1 0 6ke 1 c,0 1 0 6kg 1 p,0 1 0 6kk 1 c,
  0 1 0 6km 1 c,0 1 0 6kn 1 e,0 1 0 6kr 1 g,0 1 0 6ks 1 e,0 1 0 6kv 1 g,0 1 0 6h0 1 2,
  0 3 1 6h3 1 2,0 1 0 6ha 1 2,0 1 0 6hh 1 2,0 1 0 6hj 1 2,0 1 0 6hn 1 2,0 1 0 6hy 1 2,
  1 1 0 6i5 1 2,0 1 0 6id 1 2,0 1 0 6in 1 2,0 1 0 6iq 1 2,0 1 0 6iz 1 2,0 1 0 6j1 1 2,
  0 1 0 6j5 1 2,0 1 0 6j8 1 2,0 1 0 6jb 1 2,0 1 0 6jh 1 2,0 2 1 6jm 1 2,0 1 0 6jz 1 2,
  0 1 0 6k4 1 2,0 1 0 6ke 1 2,0 1 0 6kg 1 2,0 1 0 6kk 1 2,0 2 1 6km 1 2,0 2 1 6kr 1 2,
  0 1 0 6kv 1 2,2 1 0 6hd 1 2,1 1 0 6hi 1 2,0 1 0 6hs 1 2,0 1 0 6i0 1 2,1 1 0 6i3 1 2,
  0 1 0 6ij 1 2,0 1 0 6ix 1 2,0 1 0 6jg 1 2,3 1 0 6kd 1 2,0 1 0 6ju 1 p,0 1 0 6ju 1 2,
  0 1 0 6kp 1 p,0 1 0 6kp 1 2,0 1 0 6kx 1 p,0 1 0 6kx 1 2,0 1 0 6ky 1 p,0 1 0 6ky 1 2,
  0 1 0 6l2 1 g,0 1 0 6l2 1 2,0 1 0 6l0 1 p,0 1 0 6l0 1 2,0 1 0 6l4 1 p,0 1 0 6l4 1 2,
  0 1 0 6l5 1 g,0 1 0 6l5 1 2,0 1 0 6l6 1 g,0 1 0 6l6 1 2,0 1 0 6l7 1 p,0 1 0 6l7 1 2,
  0 1 0 6l8 1 g,0 1 0 6l8 1 2,2 1 0 6jl 1 g,0 1 0 6jl 1 2,0 1 0 6jy 1 g,0 1 0 6jy 1 2,
  0 1 0 6jx 1 g,0 1 0 6jx 1 2,0 1 0 6jv 1 g,0 1 0 6jv 1 2,0 1 0 6j4 1 g,0 1 0 6j4 1 2,
  0 1 0 ns 1 2,0 1 0 0 1p 2,0 1 0 0 w 2,0 1 0 0 g 2,0 1 0 0 f 2,0 1 0 0 w 2,0 2 0 0 0 0,
  0 1 0 6hz 1 g,0 1 0 6hz 1 2,0 1 0 6ko 1 g,0 1 0 6ko 1 2,0 1 0 6j6 1 g,0 1 0 6j6 1 2,
  0 1 0 6h5 2 p,0 1 0 6h5 2 g,0 1 0 6h6 1 g,0 1 0 6h6 1 2,0 1 0 6h8 1 g,0 1 0 6h8 1 2,
  0 1 0 6hm 1 g,0 1 0 6hm 1 2,0 1 0 6hg 1 g,0 1 0 6hg 1 2,0 1 0 6i6 1 g,0 1 0 6i6 1 2,
  0 1 0 6ia 1 g,0 1 0 6ia 1 2,0 1 0 6i9 1 g,0 1 0 6i9 1 2,0 1 0 6i8 1 g,0 1 0 6i8 1 2,
  0 1 0 6it 1 g,0 1 0 6it 1 2,0 1 0 6iw 1 g,0 1 0 6iw 1 2,0 1 0 6j3 1 g,0 1 0 6j3 1 2,
  0 1 0 6la 1 g,0 1 0 6la 1 2,0 1 0 6ja 1 g,0 1 0 6ja 1 2,0 1 0 6je 1 g,0 1 0 6je 1 2,
  0 1 0 6ji 1 g,0 1 0 6ji 1 2,0 1 0 6jj 1 g,0 1 0 6jj 1 2,0 1 0 6jq 1 g,0 1 0 6jq 1 2,
  0 1 0 6k2 1 g,0 1 0 6k2 1 2,0 1 0 6k7 1 g,0 1 0 6k7 1 2,0 1 0 6k9 1 g,0 1 0 6k9 1 2,
  0 1 0 6jr 1 g,0 1 0 6jr 1 2,0 1 0 6kb 1 g,0 1 0 6kb 1 2,0 1 0 6kc 1 g,0 1 0 6kc 1 2,
  0 1 0 6lc 1 g,2 1 0 6i7 1 g,0 1 0 6i7 1 2,0 1 0 6if 1 g,0 1 0 6if 1 2,0 1 0 6iu 1 g,
  0 1 0 6iu 1 2,0 1 0 6is 1 g,0 1 0 6is 1 2,0 1 0 6k8 1 g,0 1 0 6k8 1 2,0 1 0 6io 1 g,
  0 1 0 6io 1 2,0 1 0 6lc 1 2,4 1 0 6h2 1 g,0 1 0 6h2 1 2,2 1 0 6h1 1 g,0 1 0 6h1 1 2,
  6 1 0 6hu 1 g,0 1 0 6hu 1 2,6 1 0 6j0 1 g,0 1 0 6j0 1 2,c 1 0 6h9 1 g,0 1 0 6h9 1 2,
  2 1 0 6h7 1 g,0 1 0 6h7 1 2,0 1 0 6jo 1 g,0 1 0 6jo 1 2,0 1 0 6jp 1 g,0 1 0 6jp 1 2,
  0 1 0 6hb 1 g,0 1 0 6hb 1 2,0 1 0 6hf 1 g,0 1 0 6hf 1 2,0 1 0 6hp 1 g,0 1 0 6hp 1 2,
  0 1 0 6hw 1 g,0 1 0 6hw 1 2,0 1 0 6il 1 g,0 1 0 6il 1 2,0 1 0 6iy 1 g,0 1 0 6iy 1 2,
  0 1 0 6j9 1 g,0 1 0 6j9 1 2,0 1 0 6jd 1 g,0 1 0 6jd 1 2,0 1 0 6hq 1 g,0 1 0 6hq 1 2,
  0 1 0 6ih 1 g,0 1 0 6ih 1 2,0 1 0 6im 1 g,0 1 0 6im 1 2,0 1 0 6j7 1 g,0 1 0 6j7 1 2,
  0 1 0 6kw 1 g,0 1 0 6kw 1 2,0 1 0 6ic 1 g,0 1 0 6ic 1 2,0 1 0 6lb 1 g,0 1 0 6lb 1 2,
  0 1 0 6ib 1 g,0 1 0 6ib 1 2,0 1 0 6ii 1 g,0 1 0 6ii 1 2,0 1 0 6iv 1 g,0 1 0 6iv 1 2,
  0 1 0 6j2 1 g,0 1 0 6j2 1 2,0 1 0 6js 1 g,0 1 0 6js 1 2,0 1 0 6ir 1 g,0 1 0 6ir 1 2,
  0 1 0 6hk 1 g,0 1 0 6hk 1 2,0 1 0 6k5 1 g,0 1 0 6k5 1 2,0 1 0 6ig 1 g,0 1 0 6ig 1 2,
  1 1 0 6q5 1 g,0 3 1 6q7 1 g,0 1 0 6qa 1 p,0 5 1 6qb 1 g,0 1 0 6qg 1 p,0 1 0 6qh 1 g,
  0 1 0 6qi 1 p,0 6 1 6qj 1 g,0 1 0 6qp 1 p,0 1 0 6qq 1 g,0 1 0 6qs 1 p,0 7 1 6qt 1 g,
  0 1 0 6r0 1 p,0 3 1 6r1 1 g,0 1 0 6r4 1 p,0 4 1 6r5 1 g,2 1 0 6r9 1 2,0 2 1 e2 1 2,
  0 1 0 30 1 2,0 1 0 18 1 2,0 1 0 38 1 2,0 1 0 e4 1 2,0 1 0 6q6 1 2,0 1 0 6q5 1 2,
  0 k 1 6q7 1 2,0 h 1 6qs 1 2,0 1 0 6qa 1 g 6r4 1 g,0 1 0 6qr 1 2,0 1 0 1v 1 2,0 1 0 f 1 2,
  2 2 1 nt 1 2,0 1 0 5me 1 2,1 v 0 0 0 0,0 1 0 0 1r 2,0 1 0 0 1s 2,0 1 0 0 1t 2,0 1 0 0 1u 2,
  0 1 0 0 1v 2,0 1 0 0 1w 2,0 1 0 0 1x 2,0 1 0 0 1y 2,0 1 0 0 1z 2,0 2 0 0 20 2,0 1 0 0 21 2,
  0 1 0 0 24 2,0 1 0 0 0 0,0 1 0 e5 1 2,0 1 0 0 25 2,0 1 0 e6 1 2,0 1 0 0 23 2,0 1 0 0 22 2,
  0 1 0 e7 1 2,0 2 0 0 0 0,0 1 0 e8 1 2,0 1 0 0 1z 2,8 a 1 6ra 1 2,0 1 0 6rk 1 p,0 2 1 6rk 1 2,
  0 1 0 6rm 1 p,0 1 0 6rm 1 2,0 1 0 6rn 1 g,0 3 1 6rn 1 2,0 1 0 6rq 1 g,0 1 0 6rq 1 2,
  0 1 0 6rr 1 g,0 5 1 6rr 1 2,4 1 0 6rj 1 g 6re 1 g 6rf 1 g 6re 1 g,0 1 0 6rf 1 g 6rf 1 g,
  0 1 0 6rf 1 g 6rj 1 g,0 1 0 6rj 1 g 6rj 1 g,0 1 0 8g b 2,0 1 0 8j d 2,b 6 0 0 0 0,
  0 1 0 xr 1 2,0 1 0 xt 1 2,0 1 0 nv 1 2,0 1 0 cm 1 2,0 1 0 co 1 2,0 1 0 5mf 1 2,0 2 1 19 1 2,
  0 2 1 ny 1 2,0 b 0 0 0 0,0 1 0 1p 1 2,0 1 0 0 0 0,0 1 0 5v 1 2,0 1 0 1w 1 2,0 1 0 39 1 2,
  0 1 0 6zj 1 2,0 1 0 6t8 1 2,5 1 0 6tm 1 2,0 1 0 6to 1 2,0 3 1 6u4 1 2,0 1 0 6uf 1 2,
  0 2 1 6uq 1 2,0 2 1 6v1 1 2,0 2 1 6vg 1 2,0 2 1 6vz 1 2,0 2 1 6wa 1 2,0 2 1 6wg 1 2,
  0 2 1 6wm 1 2,0 1 0 6xw 1 2,0 1 0 6xy 1 2,0 3 1 6zg 1 2,0 1 0 0 0 0,0 1 0 6wv 1 2,
  0 1 0 6x7 1 2,0 1 0 6xe 1 2,0 1 0 6y2 1 2,0 1 0 6ya 1 2,0 1 0 6ye 1 2,0 1 0 6yp 1 2,
  0 1 0 6yv 1 2,0 2 1 6z9 1 2,0 1 0 0 2i 2,0 1 0 0 2l 2,0 1 0 0 2o 2,0 1 0 0 2r 2,0 1 0 0 2v 2,
  0 1 0 0 2y 2,0 1 0 0 31 2,0 1 0 0 32 2,0 1 0 0 33 2,0 1 0 0 34 2,0 1 0 0 35 2,0 1 0 0 37 2,
  0 1 0 0 38 2,0 1 0 0 39 2,0 1 0 0 3b 2,0 1 0 0 3c 2,0 1 0 0 3d 2,0 1 0 0 3e 2,0 1 0 0 3f 2,
  0 1 0 0 3g 2,0 1 0 0 36 2,0 a 1 61u 1 2,0 1 0 ck 1 2,0 2 1 1b 1 2,0 1 0 ca 1 2,0 1 0 6tn 1 2,
  0 1 0 6x6 1 2,0 1 0 0 3p 2,0 1 0 6tc 1 2,0 1 0 6tb 1 2,0 1 0 6tf 1 2,0 1 0 6t8 1 g,
  0 1 0 6t8 1 g 6tm 1 3,0 1 0 6t8 1 g 6yv 1 3,0 1 0 6t8 1 g 6yz 1 3,0 1 0 6t8 1 g 6za 1 3,
  0 2 1 6u7 1 2,0 1 0 6tp 1 2,0 2 1 6u9 1 2,0 1 0 6tq 1 2,0 1 0 6ub 1 2,0 1 0 6tr 1 2,
  0 2 1 6us 1 2,0 2 1 6ug 1 2,0 1 0 6uu 1 2,0 1 0 6uj 1 2,0 1 0 6ul 1 2,0 6 1 6v3 1 2,
  0 3 1 6va 1 2,0 9 1 6vi 1 2,0 3 1 6w1 1 2,0 1 0 6wc 1 2,0 1 0 6we 1 2,0 1 0 6wi 1 2,
  0 1 0 6wo 1 2,0 2 1 6ww 1 2,0 2 1 6wz 1 2,0 2 1 6x2 1 2,0 1 0 6x8 1 2,0 1 0 6xa 1 2,
  0 4 1 6xf 1 2,0 2 1 6xk 1 2,0 1 0 6xn 1 2,0 5 1 6xq 1 2,0 4 1 6y3 1 2,0 1 0 6yk 1 2,
  0 1 0 6yf 1 2,0 3 1 6yh 1 2,0 1 0 6yq 1 2,0 1 0 6uk 1 2,1 1 0 6yr 1 2,1 1 0 6ys 1 2,
  0 8 1 6yw 1 2,0 3 1 6zb 1 2,0 1 0 6z5 1 2,0 2 1 6ze 1 2,0 1 0 6zo 1 2,1 1 0 3o 1 2,
  0 1 0 6yu 1 2,0 8 0 0 0 0,0 1 0 o0 1 2,0 6 0 0 0 0,0 1 0 6yv 1 3,0 1 0 6za 1 3,0 2 0 0 0 0,
  0 1 0 o1 1 2,0 4 0 0 0 0,0 1 0 6vd 1 2,0 1 0 6vr 1 2,0 a 1 61u 1 2,0 1 0 6w4 1 2,
  0 1 0 6wf 1 2,0 1 0 6wq 1 2,0 1 0 6t8 2 2,0 1 0 6ya 2 2,0 1 0 6yt 1 2,0 1 0 5w 1 2,
  0 2 1 3p 1 2,0 6 1 1x 1 2,0 1 0 3a 1 2,0 4 1 e9 1 2,1 1 0 0 0 0,0 1 0 6zs 1 2,0 1 0 0 3q 2,
  0 2 1 6zt 1 2,0 1 0 6zu 2 2,0 1 0 6zw 1 2,0 1 0 6zv 1 2,0 3 1 6zx 1 2,0 2 1 701 1 2,
  0 1 0 702 2 2,0 3 1 703 1 2,0 4 1 707 1 2,0 1 0 70a 1 g,0 2 1 70b 1 2,0 1 0 70c 2 2,
  0 5 1 70e 1 2,0 1 0 6zt 2 2,0 1 0 6zu 8 2,0 1 0 6zw 2 2,0 1 0 0 3r 2,0 1 0 0 3s 2,
  0 1 0 0 3t 2,0 1 0 0 3u 2,0 1 0 0 3v 2,0 1 0 0 3w 2,0 1 0 0 3x 2,0 1 0 0 3y 2,0 1 0 0 3z 2,
  0 1 0 0 40 2,0 1 0 0 41 2,0 1 0 0 42 2,0 1 0 0 43 2,0 1 0 0 44 2,0 1 0 0 45 2,0 1 0 0 46 2,
  0 1 0 0 0 0,0 1 0 0 w 2,0 1 0 0 x 2,0 2 0 0 0 0,0 1 0 0 w 2,0 1 0 0 x 2,0 4 0 0 0 0,
  2 1 0 700 1 2,0 1 0 706 1 2,0 1 0 70d 1 2,0 6 1 6ts 1 2,0 1 0 6tz 1 2,0 2 1 6uv 1 2,
  0 2 1 6ve 1 2,0 1 0 6vs 1 2,0 1 0 6w5 1 2,0 3 1 6wr 1 2,0 2 1 6x4 1 2,0 1 0 6xv 1 2,
  0 2 1 6xz 1 2,0 2 1 6yb 1 2,0 3 1 6yl 1 2,0 1 0 6y7 1 2,0 2 1 6vt 1 2,0 1 0 6w6 1 2,
  0 2 1 6ux 1 2,0 1 0 6w7 1 2,0 1 0 6vv 1 2,0 1 0 6uz 1 2,0 2 1 6tg 1 2,0 3 1 6zk 1 2,
  0 2 1 6z6 1 2,0 2 1 6zp 1 2,0 1 0 6v0 1 2,0 2 1 6w8 1 2,0 1 0 6xj 1 2,0 1 0 71j 1 2,
  0 3 1 71m 1 2,0 4 1 71q 1 2,0 1 0 71w 1 2,0 3 1 71y 1 2,0 1 0 722 1 2,0 2 1 726 1 2,
  0 2 1 729 1 2,0 7 1 72e 1 2,0 1 0 723 1 2,0 2 1 71k 1 2,0 1 0 721 1 2,0 1 0 71p 1 2,
  0 3 1 72b 1 2,0 2 1 724 1 2,0 2 1 71u 1 2,0 1 0 728 1 2,0 1 0 71x 1 2,0 b 1 72m 1 2,
  0 1 0 72l 1 2,e a 1 61u 1 2,0 u 1 72x 1 2,0 2 1 739 2 2,0 1 0 73c 2 2,0 1 0 0 47 2,
  0 1 0 0 48 2,0 1 0 0 49 2,0 1 0 0 4a 2,0 1 0 0 4b 2,0 1 0 0 4c 2,0 1 0 0 4d 2,0 1 0 0 4e 2,
  0 1 0 0 4f 2,0 2 1 73r 1 2,0 1 0 p4 1 2,0 1 0 5x 1 2,0 1 0 1d 1 2,0 1 0 31 1 2,0 1 0 0 0 0,
  2 1 0 0 x 2,0 2 1 5mg 1 2,0 o 1 6si 1 2,0 1 0 0 2f 2,0 1 0 0 2g 2,0 2 1 6t6 1 2,0 2 0 0 27 2,
  0 3 0 0 28 2,0 3 0 0 29 2,0 2 0 0 2a 2,0 2 0 0 2b 2,0 3 0 0 2c 2,0 1 0 0 2d 2,0 1 0 0 2e 2,
  0 1 0 0 2h 2,2 f 1 23 1 2,1 p 1 70u 1 2,0 3 0 0 x 2,2 1 0 ed 1 2,1 b 1 70j 1 2,5 j 0 6tm 1 3,
  0 1 0 6t8 1 g,0 1 0 6yv 1 3,0 2 0 6za 1 3,0 1 0 6t8 1 g,0 1 0 om 1 2,0 1 0 6yo 1 2,
  0 1 0 6ui 1 2,0 2 1 6wk 1 2,0 1 0 6xx 1 2,0 1 0 6zr 1 2,1 2 0 0 0 0,6 6 0 0 0 0,0 2 0 0 33 2,
  0 1 0 6ty 1 2,0 1 0 6u1 1 2,0 1 0 6um 1 2,0 1 0 6wj 1 2,0 1 0 6x1 1 2,0 1 0 6xc 1 2,
  0 1 0 6y8 1 2,0 1 0 6yd 1 2,0 2 1 6tj 1 2,0 1 0 6vw 1 2,0 1 0 6z8 1 2,0 1 0 6tl 1 2,
  0 1 0 6tm 1 3,0 1 0 6v9 1 2,0 1 0 6wd 1 2,0 1 0 6xo 1 2,0 1 0 6z4 1 2,0 1 0 6vx 1 2,
  0 1 0 6wu 1 2,0 1 0 6xm 1 2,0 1 0 6xd 1 2,0 2 1 6u2 1 2,0 1 0 6uc 1 2,0 1 0 6vy 1 2,
  0 1 0 6zn 1 2,0 1 0 6wy 1 2,0 1 0 6x9 1 2,0 1 0 6yg 1 2,0 1 0 6u0 1 2,0 2 1 6ud 1 2,
  0 1 0 6un 1 2,0 1 0 6y1 1 2,0 1 0 6wp 1 2,0 1 0 6xb 1 2,0 2 1 6uo 1 2,0 1 0 6y9 1 2,
  0 1 0 6xp 1 2,0 1 0 6zb 1 3,0 p 0 0 0 0,0 1 0 0 3h 2,0 1 0 0 2s 2,0 1 0 0 2w 2,0 1 0 0 2z 2,
  0 1 0 0 2k 2,0 1 0 0 2n 2,0 1 0 0 2q 2,0 6 0 0 0 0,0 1 0 0 2j 2,0 1 0 0 2m 2,0 1 0 0 2p 2,
  0 1 0 0 0 0,0 1 0 0 2t 2,0 1 0 0 2u 2,0 1 0 0 30 2,0 1 0 0 3i 2,0 1 0 0 3j 2,0 1 0 0 3n 2,
  0 1 0 0 3o 2,0 1 0 0 3l 2,0 1 0 0 3m 2,0 1 0 0 3k 2,0 1 0 0 2x 2,0 1 0 0 3a 2,0 2 0 0 4w 2,
  0 1 0 0 4x 2,0 1 0 0 4y 2,0 3 1 7iu 1 2,0 5 1 7j2 1 2,0 1 0 7j8 1 2,0 4 1 7ja 1 2,
  0 7 1 7jf 1 2,0 5 1 7jn 1 2,0 4 1 7ju 1 2,0 1 0 7jz 1 2,0 7 1 7k1 1 2,1 3 1 7k8 1 2,
  0 3 1 7kc 1 2,0 1 0 7kg 1 2,1 2 1 7kh 1 2,1 5 1 7kj 1 2,0 2 1 7kw 1 2,0 1 0 0 4v 2,
  0 1 0 7ko 1 2,0 1 0 7kv 1 2,0 6 1 7l1 1 2,0 1 0 7l9 1 2,0 2 1 7lb 1 2,0 1 0 7le 1 2,
  0 5 1 7lg 1 2,0 1 0 7ld 1 2,0 1 0 7ky 1 2,0 1 0 7ir 1 2,0 2 0 0 0 0,0 1 0 0 i 2,0 1 0 0 h 2,
  0 1 0 7la 1 2,0 2 1 7kz 1 2,8 1 0 7j7 1 2,0 1 0 7j9 1 2,0 2 1 7l7 1 2,0 2 1 4a 1 2,
  0 a 1 61u 1 2,0 1 0 es 1 2,0 1 0 5lj 1 2,0 1 0 7it 1 2,0 5 1 7ix 1 2,0 1 0 7jy 1 2,
  0 1 0 7js 1 2,0 1 0 7kf 1 2,0 1 0 7jm 1 2,0 1 0 7jt 1 2,0 1 0 7kp 1 2,0 1 0 7k0 1 2,
  0 1 0 7kb 1 2,0 1 0 7ll 1 2,0 1 0 0 4w 2,0 1 0 0 4x 2,0 1 0 0 4y 2,1 7 1 7lm 1 2,
  0 1 0 7lu 1 2,2 2 1 7lw 1 2,2 m 1 7ly 1 2,1 7 1 7mk 1 2,1 1 0 7ms 1 2,3 4 1 7mu 1 2,
  2 1 0 0 4v 2,0 8 1 7my 1 2,2 2 1 7n8 1 2,4 1 0 7nc 1 2,0 1 0 7mf 1 g 7nc 1 g,8 1 0 7nd 1 2,
  8 1 0 7lt 1 2,0 1 0 7lv 1 2,0 2 1 7n6 1 2,2 a 1 61u 1 2,0 1 0 7mr 1 2,0 1 0 7mt 1 2,
  0 2 1 5mi 1 2,0 6 1 5nt 1 2,0 1 0 p5 1 2,0 1 0 5mk 1 2,0 1 0 7ne 1 2,0 1 0 f7 1 2,
  0 1 0 0 4z 2,2 1 0 0 4w 2,0 1 0 0 4x 2,0 1 0 0 4y 2,1 2 1 7nk 1 2,0 2 1 7np 1 2,
  0 2 1 7nh 1 2,4 1 0 7nr 1 2,0 1 0 7nm 1 2,2 1 0 7nj 1 2,0 1 0 7nn 1 2,0 k 1 7nv 1 2,
  1 6 1 7of 1 2,0 1 0 7om 1 2,1 1 0 7on 1 2,2 1 0 7oo 1 2,2 2 1 7ns 1 2,2 1 0 0 4v 2,
  1 5 1 7oq 1 2,4 2 1 7ov 1 2,2 3 1 7ox 1 2,3 1 0 7nu 1 2,a 1 0 7op 1 2,9 a 1 61u 1 2,
  0 1 0 0 50 2,0 1 0 0 51 2,0 1 0 7no 1 2,0 1 0 7ng 1 2,0 1 0 7nf 1 2,0 1 0 7ol 1 2,
  0 1 0 f8 1 2,a 1 0 0 4w 2,0 1 0 0 4x 2,0 1 0 0 4y 2,1 7 1 7p1 1 2,0 1 0 7p9 1 2,
  0 1 0 7pb 1 2,1 3 1 7pc 1 2,1 a 1 7pf 1 2,0 c 1 7pq 1 2,1 7 1 7q2 1 2,1 1 0 7q9 1 2,
  0 1 0 7qf 1 2,1 5 1 7qa 1 2,2 1 0 0 4v 2,0 8 1 7qg 1 2,0 1 0 7qq 1 2,1 3 1 7qr 1 2,
  1 3 1 7qu 1 2,2 1 0 7p0 1 2,f 1 0 7p8 1 2,0 1 0 7pa 1 2,0 2 1 7qo 1 2,2 a 1 61u 1 2,
  0 1 0 f9 1 2,0 1 0 5ml 1 2,7 1 0 7pp 1 2,0 1 0 0 32 2,0 1 0 0 31 2,0 1 0 0 33 2,0 3 0 0 4v 2,
  1 1 0 0 4w 2,0 1 0 0 4x 2,0 1 0 0 4y 2,1 7 1 7qx 1 2,0 1 0 7r5 1 2,2 2 1 7r7 1 2,
  2 m 1 7r9 1 2,1 6 1 7rv 1 2,0 1 0 7s2 1 2,1 2 1 7s3 1 2,1 1 0 7s5 1 2,0 4 1 7s7 1 2,
  2 1 0 0 4v 2,0 8 1 7sb 1 2,2 1 0 7sl 1 2,5 1 0 7sp 1 2,7 1 0 0 w 2,0 2 1 7sq 1 2,
  7 1 0 7s1 1 2,0 1 0 7r4 1 2,0 1 0 7r6 1 2,0 2 1 7sj 1 2,2 a 1 61u 1 2,0 1 0 p6 1 2,
  0 1 0 7s6 1 2,0 6 1 5nz 1 2,a 1 0 0 4x 2,0 1 0 7t5 1 2,1 6 1 7st 1 2,3 3 1 7sz 1 2,
  1 2 1 7t2 1 2,1 1 0 7t6 1 2,3 2 1 7t7 1 2,1 1 0 7to 1 2,1 2 1 7t9 1 2,3 2 1 7tb 1 2,
  3 1 0 7td 1 2,0 1 0 7tn 1 2,0 1 0 7te 1 2,3 3 1 7tf 1 2,0 1 0 7tm 1 2,0 1 0 7ti 1 2,
  0 1 0 7tl 1 2,0 1 0 7tk 1 2,0 1 0 7tj 1 2,0 4 1 7tp 1 2,4 5 1 7tt 1 2,3 3 1 7ty 1 2,
  4 1 0 7u4 1 2,2 1 0 7ss 1 2,6 1 0 7u5 1 2,e a 1 61u 1 2,0 3 1 5ob 1 2,0 6 1 p7 1 2,
  0 1 0 5mn 1 2,0 1 0 pd 1 2,5 2 0 0 4w 2,0 1 0 0 4x 2,0 1 0 0 4y 2,0 1 0 0 4x 2,0 7 1 7u6 1 2,
  0 1 0 7ue 1 2,1 3 1 7ug 1 2,1 9 1 7uj 1 2,0 2 1 7ut 1 2,0 c 1 7uw 1 2,1 9 1 7v8 1 2,
  0 2 1 7vm 1 2,0 5 1 7vh 1 2,2 1 0 0 4v 2,0 8 1 7vp 1 2,1 2 1 7vz 1 2,2 4 1 7w2 1 2,
  7 2 1 7w6 1 2,1 1 0 7us 1 2,0 1 0 7uv 1 2,0 1 0 7vo 1 2,2 1 0 7v7 1 g 7w5 1 g,2 1 0 7ud 1 2,
  0 1 0 7uf 1 2,0 2 1 7vx 1 2,2 a 1 61u 1 2,7 1 0 fa 1 2,0 4 1 61u 1 2,0 3 1 61v 1 2,
  0 1 0 q3 1 2,0 1 0 7xr 1 2,0 1 0 0 4w 2,0 1 0 0 4x 2,0 1 0 0 4y 2,0 1 0 fb 1 2,0 7 1 7w8 1 2,
  0 1 0 7wg 1 2,1 3 1 7wi 1 2,1 n 1 7wl 1 2,1 9 1 7x8 1 2,0 1 0 7xm 1 2,1 5 1 7xh 1 2,
  2 1 0 0 4v 2,0 1 0 7xo 1 2,0 2 1 7xs 1 2,1 4 1 7xv 1 2,1 1 0 7y1 1 2,5 2 1 7y6 1 2,
  7 2 1 7y8 1 2,6 1 0 7x7 1 g 7y7 1 g,0 1 0 7xn 1 2,1 1 0 7wf 1 2,0 1 0 7wh 1 2,0 2 1 7xz 1 2,
  2 a 1 61u 1 2,1 2 1 7xp 1 2,0 1 0 0 4x 2,c 1 0 0 4x 2,0 1 0 0 4w 2,0 1 0 0 4x 2,0 1 0 0 4y 2,
  0 1 0 7zu 1 2,0 4 1 7ya 1 2,0 3 1 7yf 1 2,0 1 0 7yj 1 2,1 3 1 7yl 1 2,1 v 1 7yo 1 2,
  0 1 0 7zr 1 2,0 1 0 7zj 1 2,0 2 1 7zp 1 2,0 5 1 7zk 1 2,0 1 0 7zs 1 2,0 2 0 80b 1 g,
  0 1 0 7zt 1 2,0 7 1 7zv 1 2,1 3 1 804 1 2,4 1 0 80b 1 2,0 1 0 7zi 1 g 80b 1 g,0 1 0 q4 1 2,
  4 1 0 7zg 1 g 80b 1 g,0 1 0 7zh 1 g 80b 1 g,0 1 0 7zq 1 g 80b 1 g,0 1 0 80a 1 2,
  0 7 1 5oz 1 2,0 1 0 7ye 1 2,0 1 0 7yi 1 2,0 1 0 7yk 1 2,0 2 1 802 1 2,2 a 1 61u 1 2,
  0 9 1 5p6 1 2,0 1 0 q5 1 2,0 1 0 7z5 1 g 80b 1 g,0 1 0 7za 1 g 80b 1 g,0 1 0 7zi 1 g 80b 1 g,
  0 1 0 7zj 1 g 80b 1 g,0 1 0 7zp 1 g 80b 1 g,0 1 0 7yr 1 g 80b 1 g,1 1 0 0 4w 2,0 1 0 0 4x 2,
  0 1 0 0 4y 2,1 i 1 80c 1 2,3 o 1 80u 1 2,1 9 1 81i 1 2,1 1 0 81r 1 2,2 7 1 81s 1 2,
  3 1 0 82g 1 2,4 6 1 81z 1 2,1 1 0 825 1 2,1 1 0 826 1 2,0 1 0 82a 1 2,1 1 0 82c 1 2,
  3 1 0 828 1 2,6 a 1 61u 1 2,2 1 0 827 1 2,0 1 0 829 1 2,0 1 0 fc 1 2,c 1m 1 95w 1 2,
  4 1 0 5ms 1 2,0 6 1 97i 1 2,0 1 0 5lk 1 2,0 1 0 0 5d 2,0 1 0 0 5e 2,0 1 0 0 5f 2,
  0 1 0 0 5g 2,0 1 0 0 5h 2,0 1 0 0 5i 2,0 1 0 0 5j 2,0 1 0 0 5c 2,0 1 0 fd 1 2,0 a 1 61u 1 2,
  0 2 1 fe 1 2,11 2 1 97p 1 2,1 1 0 97r 1 2,1 4 1 97s 1 2,0 1 0 97x 1 2,1 1 0 97y 1 2,
  0 1 0 981 1 2,0 1 0 97z 1 2,0 l 1 982 1 2,1 1 0 98n 1 2,1 3 1 98o 1 2,0 1 0 97w 1 2,
  0 j 1 98r 1 2,2 5 1 99a 1 2,1 1 0 5ll 1 2,1 1 0 0 5l 2,0 1 0 0 5m 2,0 1 0 0 5n 2,
  0 1 0 0 5o 2,0 1 0 0 5p 2,0 1 0 0 5q 2,0 1 0 0 5k 2,1 a 1 61u 1 2,2 1 0 98r 1 g 98c 1 g,
  0 1 0 98r 1 g 98k 1 g,0 1 0 97o 1 2,0 1 0 980 1 2,w 1 0 9d8 1 g 9dv 1 g 0 4x g,0 3 1 qd 1 2,
  0 7 1 fi 1 2,0 1 0 fr 1 2,0 1 0 fr 1 g,0 6 1 fs 1 2,0 1 0 qg 1 2,0 1 0 2p 1 2,0 3 1 qh 1 2,
  0 2 0 0 0 0,0 6 1 qk 1 2,0 a 1 61u 1 2,0 8 1 61v 1 6,0 1 0 623 1 7,0 1 0 61u 1 6,
  0 1 0 qq 1 2,0 1 0 0 0 0,0 1 0 qr 1 2,0 1 0 0 0 0,0 1 0 qs 1 2,0 1 0 0 5t 2,0 4 1 8s 1 2,
  0 2 0 0 0 0,0 1 0 9ba 1 2,0 1 0 9bd 1 2,0 1 0 9bf 1 2,1 1 0 9bh 1 2,0 1 0 9bj 1 2,
  0 1 0 9bl 1 2,0 1 0 9bn 1 2,1 1 0 9bp 1 2,0 1 0 9br 1 2,0 1 0 9bt 1 2,0 1 0 9bv 1 2,
  1 1 0 9bx 1 2,0 1 0 9bz 1 2,0 1 0 9c1 1 2,0 1 0 9c3 1 2,1 1 0 9c5 1 2,0 1 0 9c7 1 2,
  0 1 0 9c9 1 2,0 1 0 9cb 1 2,1 1 0 9cd 1 2,0 1 0 9cf 1 2,0 1 0 9ch 1 2,0 1 0 9cj 1 2,
  1 1 0 9cl 1 2,0 1 0 9cn 1 2,0 1 0 9cp 1 2,0 1 0 9cr 1 2,0 1 0 9ct 1 2,0 1 0 9cv 1 2,
  0 1 0 9cy 1 2,0 1 0 9d0 1 2,0 1 0 9d2 1 2,0 1 0 9d4 1 2,0 1 0 9d6 1 2,0 1 0 9d8 1 2,
  1 1 0 9cv 2 2,0 1 0 9bc 1 2,0 1 0 9cx 1 2,4 2 1 9di 1 2,1 1 0 9dn 1 2,2 1 0 9dq 1 2,
  1 5 1 9ds 1 2,0 1 0 0 4x 2,0 1 0 0 4y 2,0 1 0 9dl 1 2,1 2 0 0 4w 2,0 1 0 9dx 1 2,
  0 1 0 fy 1 2,0 2 0 0 0 0,0 1 0 9da 1 2,0 1 0 9dc 1 2,0 2 1 9dg 1 2,0 1 0 9de 1 2,
  0 1 0 9db 1 2,0 1 0 9dd 1 2,0 1 0 9df 1 2,0 1 0 9bb 1 2,0 1 0 9be 1 2,0 1 0 9bg 1 2,
  1 1 0 9bi 1 2,0 1 0 9bk 1 2,0 1 0 9bm 1 2,0 1 0 9bo 1 2,1 1 0 9bq 1 2,0 1 0 9bs 1 2,
  0 1 0 9bu 1 2,0 1 0 9bw 1 2,1 1 0 9by 1 2,0 1 0 9c0 1 2,0 1 0 9c2 1 2,0 1 0 9c4 1 2,
  1 1 0 9c6 1 2,0 1 0 9c8 1 2,0 1 0 9ca 1 2,0 1 0 9cc 1 2,1 1 0 9ce 1 2,0 1 0 9cg 1 2,
  0 1 0 9ci 1 2,0 1 0 9ck 1 2,1 1 0 9cm 1 2,0 1 0 9co 1 2,0 1 0 9cq 1 2,0 1 0 9cs 1 2,
  0 1 0 9cu 1 2,0 1 0 9cw 1 2,0 1 0 9cz 1 2,0 1 0 9d1 1 2,0 1 0 9d3 1 2,0 1 0 9d5 1 2,
  0 1 0 9d7 1 2,0 1 0 9d9 1 2,1 1 0 9cm 2 2,0 1 0 9cu 2 2,0 1 0 9cw 2 2,1 8 1 qt 1 2,
  0 1 0 0 0 0,0 6 1 r1 1 2,1 2 1 r7 1 2,0 2 1 fp 1 2,0 3 1 fz 1 2,0 4 1 r9 1 2,0 2 1 g2 1 2,
  11 1 0 9to 1 2,0 1 0 9tq 1 2,0 1 0 9ts 1 2,0 1 0 9tw 1 2,0 1 0 9tz 1 2,0 1 0 9u1 1 2,
  0 1 0 9u4 1 2,0 1 0 9u8 1 2,0 1 0 9ud 1 2,0 1 0 9uk 1 2,0 2 1 9uo 1 2,0 1 0 9ur 1 2,
  0 1 0 9ut 1 2,0 1 0 9uw 1 2,0 1 0 9uz 1 2,0 3 1 9v3 1 2,0 1 0 9v8 1 2,0 1 0 9vb 1 2,
  0 2 1 9vf 1 2,0 1 0 9vm 1 2,0 1 0 9vp 1 2,0 1 0 9vs 1 2,0 1 0 9vu 1 2,0 1 0 9vw 1 2,
  0 1 0 9w0 1 2,0 1 0 9w2 1 2,0 1 0 9w9 1 2,0 1 0 9wb 1 2,0 1 0 9wh 1 2,0 5 1 9wo 1 2,
  1 4 1 9wy 1 2,0 1 0 9x2 1 g,0 1 0 9x2 1 2,0 1 0 9x6 1 2,0 1 0 9x8 1 2,0 1 0 9xa 1 2,
  0 1 0 9xd 1 2,0 1 0 9xi 1 2,0 1 0 9xm 1 2,0 1 0 9x9 1 2,0 1 0 9xp 1 2,0 1 0 9xk 1 2,
  0 1 0 0 4x 2,0 1 0 0 5x 2,0 1 0 0 4y 2,0 2 1 9xu 1 2,0 1 0 9vv 1 2,0 1 0 9vz 1 2,
  0 1 0 9w3 1 2,0 1 0 9we 1 2,0 1 0 9w9 1 g 9xu 1 g 9w9 1 g,0 a 1 61u 1 2,0 2 1 4l 1 2,
  0 4 1 gp 1 2,0 2 1 9w6 1 2,0 4 1 9wu 1 2,0 4 1 9xe 1 2,0 1 0 9u0 1 2,0 1 0 9ue 1 2,
  0 2 1 9wj 1 2,0 1 0 9ve 1 2,0 1 0 9vt 1 2,0 1 0 9w1 1 2,0 1 0 9ui 1 2,0 1 0 9xq 1 2,
  0 2 1 9xw 1 2,0 1 0 9w8 1 2,0 1 0 9wn 1 2,0 2 1 9xr 1 2,0 5 1 9xy 1 2,0 1 0 9v0 1 2,
  0 2 1 9wl 1 2,0 1 0 9x7 1 2,0 1 0 9x4 1 2,0 2 1 9xb 1 2,0 1 0 9tp 1 2,0 1 0 9tr 1 2,
  0 1 0 9tt 1 2,0 1 0 9u2 1 2,0 1 0 9ub 1 2,0 1 0 9ul 1 2,0 1 0 9v6 1 2,0 1 0 9vc 1 2,
  0 2 1 9vh 1 2,0 1 0 9vn 1 2,0 1 0 9w5 1 2,0 1 0 9wc 1 2,0 1 0 9w4 1 2,0 1 0 9x3 1 2,
  0 1 0 9xj 1 2,0 1 0 9xl 1 2,0 1 0 9xo 1 2,0 1 0 9y3 1 2,0 1 0 9y5 1 2,0 2 1 9y8 1 2,
  0 1 0 9y4 1 2,0 2 1 9y6 1 2,0 1 0 9vk 1 2,0 1 0 9ya 1 2,0 a 1 61u 1 2,0 2 1 9yb 1 2,
  0 1 0 9x5 1 2,0 1 0 9xn 1 2,0 2 1 rf 1 2,0 1 0 6ns 1 g,0 1 0 6nu 1 g,0 1 0 6nw 1 g,
  0 1 0 6ny 1 g,0 1 0 6o0 1 g,0 1 0 6o2 1 g,0 1 0 6o4 1 g,0 1 0 6o8 1 g,0 1 0 6oa 1 g,
  0 1 0 6oc 1 g,0 1 0 6oe 1 g,0 1 0 6og 1 g,0 1 0 6oi 1 g,0 1 0 6om 1 g,0 1 0 6oo 1 g,
  0 1 0 6oq 1 g,0 1 0 6os 1 g,0 1 0 6ou 1 g,0 1 0 6ow 1 g,0 1 0 6p0 1 g,0 1 0 6p2 1 g,
  0 1 0 6p4 1 g,0 1 0 6p6 1 g,0 1 0 6p8 1 g,0 1 0 6pa 1 g,0 1 0 6pc 1 g,0 1 0 6pe 1 g,
  0 1 0 6pg 1 g,0 1 0 6pi 1 g,0 1 0 6pk 1 g,0 1 0 6pm 1 g,0 1 0 6pq 1 g,0 1 0 6ps 1 g,
  0 1 0 6o6 1 g,0 1 0 6ok 1 g,0 1 0 6oy 1 g,0 1 0 6po 1 g,0 1 0 6pu 1 g,1 1 0 6px 1 g,
  5 1 0 6q2 1 g,2 1 0 6nr 1 2,0 1 0 6nt 1 2,0 1 0 6nv 1 2,0 1 0 6nx 1 2,0 1 0 6nz 1 2,
  0 1 0 6o1 1 2,0 1 0 6o3 1 2,0 1 0 6o7 1 2,0 1 0 6o9 1 2,0 1 0 6ob 1 2,0 1 0 6od 1 2,
  0 1 0 6of 1 2,0 1 0 6oh 1 2,0 1 0 6ol 1 2,0 1 0 6on 1 2,0 1 0 6op 1 2,0 1 0 6or 1 2,
  0 1 0 6ot 1 2,0 1 0 6ov 1 2,0 1 0 6oz 1 2,0 1 0 6p1 1 2,0 1 0 6p3 1 2,0 1 0 6p5 1 2,
  0 1 0 6p7 1 2,0 1 0 6p9 1 2,0 1 0 6pb 1 2,0 1 0 6pd 1 2,0 1 0 6pf 1 2,0 1 0 6ph 1 2,
  0 1 0 6pj 1 2,0 1 0 6pl 1 2,0 1 0 6pp 1 2,0 1 0 6pr 1 2,0 1 0 6o5 1 2,0 1 0 6oj 1 2,
  0 1 0 6ox 1 2,0 1 0 6pn 1 2,0 1 0 6pt 1 2,0 2 1 6pv 1 2,0 3 1 6py 1 2,0 1 0 5y 1 2,
  0 1 0 6oh 1 p,0 1 0 6q1 1 2,0 2 1 6q3 1 2,0 2n 1 c9d 1 2,0 21 1 cct 1 2,0 2g 1 cfh 1 2,
  0 g 1 75e 1 2,0 g 1 75v 1 2,0 g 1 76i 1 2,0 8 1 76z 1 2,0 8 1 77e 1 2,0 9 1 77n 1 2,
  1 2 1 77x 1 2,0 1 0 780 1 2,0 1 0 782 1 2,2 7 1 783 1 2,1 1 0 78a 1 2,1 4 1 78b 1 2,
  2 8 1 78f 1 2,0 g 1 78u 1 2,0 8 1 79b 1 2,0 9 1 79k 1 2,1 4 1 79t 1 2,2 8 1 79x 1 2,
  0 8 1 7a6 1 2,0 8 1 7af 1 2,0 9 1 7ao 1 2,1 2 1 7ay 1 2,0 1 0 7b1 1 2,0 1 0 7b3 1 2,
  2 7 1 7b4 1 2,1 1 0 7bc 1 2,1 2 1 7be 1 2,0 1 0 7bh 1 2,0 1 0 7bj 1 2,2 f 1 7bk 1 2,
  1 8 1 7bz 1 2,0 o 1 7ce 1 2,0 8 1 7d9 1 2,0 8 1 7di 1 2,0 9 1 7dr 1 2,1 2 1 7e1 1 2,
  0 1 0 7e4 1 2,0 1 0 7e6 1 2,2 8 1 7e7 1 2,0 8 1 7ej 1 2,0 8 1 7es 1 2,0 8 1 7f8 1 2,
  0 8 1 7fh 1 2,0 g 1 7fw 1 2,0 8 1 7gi 1 2,0 3 1 7gx 1 2,2 1 0 0 4i 2,0 1 0 0 4h 2,
  0 1 0 0 4g 2,0 1 0 5z 1 2,0 1 0 2i 1 2,0 1 0 3r 1 2,0 4 1 2j 1 2,0 1 0 3b 1 2,0 1 0 60 1 2,
  0 9 1 61v 1 2,0 b 1 5pf 1 2,3 1 0 76b 1 2,0 1 0 76d 1 2,0 2 1 76f 1 2,0 1 0 78n 1 2,
  0 1 0 78p 1 2,0 2 1 78r 1 2,0 1 0 7gc 1 2,0 1 0 7ge 1 2,0 2 1 7gg 1 2,0 1 0 7gq 1 2,
  0 1 0 7gs 1 2,0 2 1 7gu 1 2,0 a 1 m2 1 2,6 2e 1 aju 1 g,2 6 1 am2 1 2,2 1 0 g 1 2,
  0 aj 1 an8 1 2,0 1 0 az5 1 2,0 1 0 axr 1 2,0 g 1 axt 1 2,0 8 1 aya 1 2,0 h 1 ayo 1 2,
  0 5i 1 az6 1 2,0 1 0 rd 1 2,0 1 0 3u 1 2,0 1 0 axs 1 2,0 1 0 ay9 1 2,0 6 1 ayi 1 2,
  0 9 1 b4o 1 2,0 1 0 a 1 9,0 q 1 b7b 1 2,0 2 1 8w 1 2,3 1 0 b81 1 2,0 1 0 b81 2 2,
  0 1 0 b82 1 2,0 1 0 b92 1 2,0 1 0 b82 2 2,0 1 0 b82 8 2,0 1 0 b83 1 2,0 1 0 b83 2 2,
  0 1 0 b84 1 2,0 1 0 b84 2 2,0 1 0 b8y 1 2,0 1 0 b90 1 2,0 1 0 b84 5 2,0 1 0 b84 8 2,
  0 1 0 b84 b 2,0 4 1 b86 1 2,0 1 0 b89 2 2,0 1 0 b89 5 2,0 1 0 b89 8 2,0 1 0 b89 b 2,
  0 1 0 b8b 1 2,0 1 0 b95 1 2,0 2 1 b8c 1 2,0 1 0 b8d 2 2,0 1 0 b8d 6 2,0 1 0 b8d a 2,
  0 1 0 b8e 1 2,0 1 0 b8e 2 2,0 1 0 b8e 8 2,0 1 0 b8f 1 2,0 1 0 b8f 2 2,0 1 0 b8h 1 2,
  0 1 0 b8h 2 2,0 1 0 b8i 1 2,0 1 0 b8i 2 2,0 4 1 b8j 1 2,0 1 0 b8m 2 2,0 1 0 b8m 7 2,
  0 1 0 b8m 9 2,0 1 0 b8m b 2,0 1 0 b8o 1 2,0 1 0 b8o 2 2,0 1 0 b8o 8 2,0 1 0 b8p 1 2,
  0 1 0 b8p 2 2,0 1 0 b8p 8 2,0 1 0 b8k 2 2,0 1 0 b8q 1 2,0 1 0 b8s 1 2,0 1 0 b8s 2 2,
  0 1 0 b8s 8 2,0 1 0 b8t 1 2,0 1 0 b8t 2 2,0 1 0 b8u 1 2,0 1 0 b8u 2 2,0 2 1 b8v 1 2,
  0 1 0 b93 1 2,0 2 1 b97 1 2,0 1 0 b94 1 2,0 1 0 b96 1 2,0 2 1 b99 1 2,0 1 0 b9a 2 2,
  0 1 0 b9a 8 2,0 1 0 b8c 2 2,0 1 0 b8m 4 2,0 3 1 2t 1 2,0 1 0 b8i 1 g b8t 1 g,
  0 1 0 b8s 2 2 b8s 2 2,0 1 0 b83 1 g b83 1 g,0 1 0 b8a 1 2,0 1 0 b8n 1 2,0 1 0 b8x 1 2,
  0 1 0 b85 1 2,0 1 0 b8g 1 2,0 1 0 b8r 1 2,0 1 0 b8z 1 2,0 1 0 b91 1 2,7 e 1 9n7 1 2,
  0 8 1 9nm 1 2,9 1 0 9nl 1 2,0 l 1 9nu 1 2,0 2 1 4i 1 2,9 k 1 9of 1 2,c d 1 9oz 1 2,
  1 3 1 9pc 1 2,1 2 1 9pf 1 2,c z 1 a11 1 2,0 h 1 a21 1 2,0 2 0 0 0 0,0 g 1 a2i 1 2,
  0 1 0 0 4x 2,0 1 0 0 4y 2,0 1 0 0 5y 2,0 1 0 0 5z 2,0 1 0 0 60 2,0 7 0 0 w 2,0 1 0 a2y 1 2,
  0 1 0 0 0 0,0 2 1 4n 1 2,0 1 0 2q 1 2,0 1 0 5lm 1 2,0 3 1 gt 1 2,0 1 0 5mt 1 2,0 1 0 a20 1 2,
  0 1 0 0 w 2,2 a 1 61u 1 2,6 a 1 61u 1 2,6 1 0 ee 1 2,0 1 0 3n 1 2,0 1 0 1e 1 2,0 1 0 3s 1 2,
  0 2 1 2n 1 2,0 2 1 i 1 2,0 1 0 1f 1 2,0 1 0 3t 1 2,0 6 0 0 0 0,0 a 1 61u 1 2,6 1 0 afe 1 2,
  0 1 0 afg 1 2,0 1 0 afj 1 2,0 1 0 afp 1 2,0 1 0 afr 1 2,0 1 0 afu 1 2,0 1 0 afw 1 2,
  0 3 1 afz 1 2,0 1 0 ag6 1 2,0 1 0 ag8 1 2,0 1 0 agb 1 2,0 1 0 agd 1 2,0 1 0 agi 1 2,
  0 3 1 agk 1 2,0 1 0 agt 1 2,0 1 0 agw 1 2,0 1 0 agz 1 2,0 1 0 ah5 1 2,0 1 0 ah9 1 2,
  0 1 0 ahc 1 2,0 1 0 ahe 1 2,0 1 0 ahg 1 2,0 1 0 ahj 1 2,0 2 1 aho 1 2,0 1 0 ahs 1 2,
  0 1 0 ahw 1 2,0 4 1 ahz 1 2,0 1 0 afd 1 2,0 1 0 afh 1 2,0 1 0 afk 1 2,0 1 0 afq 1 2,
  0 1 0 afs 1 2,0 1 0 afv 1 2,0 1 0 afx 1 2,0 1 0 ag2 1 2,0 1 0 ag7 1 2,0 1 0 ag9 1 2,
  0 1 0 agc 1 2,0 1 0 age 1 2,0 1 0 agj 1 2,0 1 0 agu 1 2,0 1 0 agx 1 2,0 1 0 ah0 1 2,
  0 1 0 ah6 1 2,0 1 0 ahq 1 2,0 1 0 aha 1 2,0 1 0 ahf 1 2,0 1 0 ahk 1 2,0 1 0 ahu 1 2,
  0 1 0 ahx 1 2,0 2 1 ai3 1 2,0 1 0 ah3 1 2,0 1 0 afi 1 2,0 1 0 afl 1 2,0 1 0 afo 1 2,
  0 1 0 afy 1 2,0 1 0 aft 1 2,0 1 0 ag3 1 2,0 1 0 ahl 1 2,0 1 0 agf 1 2,0 1 0 agh 1 2,
  0 1 0 aga 1 2,0 1 0 agn 1 2,0 1 0 agv 1 2,0 1 0 agy 1 2,0 1 0 ah7 1 2,0 1 0 ahh 1 2,
  0 1 0 ahv 1 2,0 1 0 ahy 1 2,0 1 0 ahr 1 2,0 1 0 aht 1 2,0 1 0 ai5 1 2,0 1 0 ah1 1 2,
  0 1 0 ahb 1 2,0 1 0 afm 1 2,0 1 0 ahm 1 2,0 1 0 ahd 1 2,0 1 0 ahi 1 2,0 1 0 ah8 1 2,
  0 1 0 ah2 1 2,7 7 1 af6 1 2,0 1 0 aff 1 2,0 1 0 afn 1 2,0 1 0 ahn 1 2,0 1 0 ag4 1 2,
  0 1 0 ah4 1 2,0 1 0 ai6 1 2,0 2 1 ai8 1 2,0 2 1 aib 1 2,0 1 0 aif 1 2,0 2 1 aih 1 2,
  0 1 0 aik 1 2,0 1 0 aim 1 2,0 2 1 aio 1 2,0 1 0 aid 1 2,0 1 0 ain 1 2,0 1 0 agg 1 2,
  0 1 0 ag5 1 2,0 2 1 ago 1 2,0 1 0 ai7 1 2,0 1 0 aia 1 2,0 1 0 aie 1 2,0 1 0 aig 1 2,
  0 1 0 agq 1 2,0 1 0 ail 1 2,0 2 1 agr 1 2,0 2 1 aiq 1 2,0 1 0 aij 1 2,0 1 0 ait 1 2,
  0 1 0 ais 1 2,5 1y 1 b4x 1 2,a t 1 9lt 1 2,0 1 0 9m1 1 g 9mv 1 g,0 1 0 9m4 1 g 9mw 1 g,
  1 c 1 9mm 1 2,4 9 1 9my 1 2,0 1 0 0 69 2,0 1 0 0 6a 2,0 1 0 0 6b 2,4 1 0 re 1 2,3 1 0 32 1 2,
  0 1 0 3c 1 2,0 a 1 61u 1 2,0 u 1 a2z 1 2,2 5 1 a3t 1 2,b 18 1 a3y 1 2,4 q 1 a56 1 2,
  6 a 1 61u 1 2,0 1 0 61v 1 2,3 1 0 a4q 1 g a5c 1 g,0 1 0 a4q 1 g a5c 1 g a5n 1 g,0 w 1 rl 1 2,
  0 s 1 9ph 1 2,2 2 1 61 1 2,0 19 1 a5w 1 2,0 6 1 a7d 1 2,0 1 0 a75 1 2,
  0 1 0 a6y 1 g a80 1 g a6y 1 g,0 3 1 a77 1 2,0 2 0 a62 1 g,0 2 0 a6n 1 g,0 3 1 a7a 1 2,
  1 1 0 a80 1 2,0 1 0 a7j 1 2,0 2 1 a7l 1 2,0 1 0 a7m 1 g,0 6 1 a7n 1 2,0 1 0 a76 1 2,
  0 1 0 a7k 1 2,0 1 0 a7z 1 2,0 2 1 a7t 1 2,0 3 1 a7w 1 2,0 1 0 a7v 1 2,0 1 0 0 4x 2,
  0 1 0 0 61 2,0 1 0 0 62 2,0 1 0 0 63 2,0 1 0 0 64 2,0 1 0 0 65 2,0 1 0 0 66 2,0 1 0 0 67 2,
  0 1 0 0 68 2,2 1 0 0 0 0,0 a 1 61u 1 2,6 a 1 61u 1 2,6 7 1 gw 1 2,0 1 0 5ln 1 2,0 4 1 4p 1 2,
  0 2 1 h3 1 2,2 5 0 0 w 2,0 6 0 0 x 2,0 2 0 0 w 2,0 1 0 0 x 2,0 1 0 0 z 2,0 1 0 6bn 1 5,
  0 1 0 6bq 1 g,0 2 0 0 w 2,0 2 0 0 x 2,0 5 0 0 w 2,0 1 0 0 x 2,0 1 0 0 w 2,0 1 0 64d 2 2,
  0 1 0 68u 2 2,0 1 0 6ac 8 2,1d 2 0 0 4w 2,0 1 0 0 4x 2,0 1 0 0 52 2,0 1 0 0 4y 2,
  0 1 0 a9y 1 2,1 1 0 aa0 1 2,1 1 0 aa2 1 2,1 1 0 aa4 1 2,1 1 0 aa6 1 2,1 3 1 aa8 1 2,
  1 1 0 aac 1 2,0 f 1 aaf 1 2,0 5 1 aav 1 2,0 8 1 ab1 1 2,0 3 1 aba 1 2,0 1 0 abf 1 2,
  0 1 0 0 4v 2,0 6 1 abg 1 2,1 1 0 abn 1 2,1 2 1 abp 1 2,2 1 0 abt 1 2,1 1 0 abv 1 2,
  0 2 1 aad 1 2,0 1 0 aau 1 2,0 1 0 ab0 1 2,0 1 0 ab9 1 2,0 2 1 abd 1 2,
  0 1 0 aal 1 g abv 1 g aan 1 g,3 a 1 61u 1 2,0 2 1 63 1 2,0 1 0 3v 1 2,0 1 0 2r 1 2,
  0 2 1 4t 1 2,0 1 0 h 1 2,0 a 1 sh 1 2,0 9 0 0 0 0,0 9 1 sr 1 2,0 2 1 65 1 2,1 1 0 0 4x 2,
  0 1 0 0 54 2,0 1 0 0 4y 2,0 8 1 8zl 1 2,0 e 1 8zu 1 2,0 1 0 909 1 2,0 1 0 90b 1 2,
  0 1 0 90d 1 2,0 1 0 90g 1 2,0 1 0 90j 1 2,0 2 1 90l 1 2,0 1 0 90o 1 2,0 1 0 90c 1 2,
  0 1 0 90e 1 2,0 1 0 90h 1 2,0 8 1 90p 1 2,0 1 0 90a 1 2,0 1 0 90k 1 2,0 1 0 8zt 1 2,
  0 1 0 90n 1 2,0 a 1 61u 1 2,0 1 0 8zl 1 g,0 1 0 90f 1 2,0 1 0 90i 1 2,0 1 0 908 1 2,
  0 1 0 8zs 1 g,0 1 0 909 1 g,0 1 0 9qw 1 2,0 1 0 9qw 1 g,0 1 0 9qx 1 2,0 2 0 9qx 1 g,
  0 1 0 9qy 1 2,0 1 0 9qy 1 g,0 1 0 9qz 1 2,0 1 0 9qz 1 g,0 1 0 9r0 1 2,0 1 0 9r0 1 g,
  0 1 0 9r1 1 2,0 2 0 9r1 1 g,0 1 0 9r2 1 2,0 1 0 9r2 1 g,0 3 1 9r3 1 2,0 1 0 9r5 1 g,
  0 1 0 9r6 1 2,0 1 0 9r6 1 g,0 1 0 9r7 1 2,0 1 0 9r7 1 g,0 1 0 9r8 1 2,0 2 0 9r8 1 g,
  0 1 0 9r9 1 2,0 1 0 9r9 1 g,0 2 1 9ra 1 2,0 1 0 9rb 1 g,0 6 1 9rc 1 2,0 1 0 0 4v 2,
  0 1 0 9ri 1 2,0 1 0 9ri 1 g,0 2 1 9rj 1 2,0 1 0 9rk 1 g,0 1 0 9rl 1 2,0 1 0 9rl 1 g,
  0 1 0 9rm 1 2,0 1 0 9rm 1 g,0 4 1 9rn 1 2,8 4 1 hg 1 2,0 a 1 9ir 1 2,0 h 1 9j4 1 2,
  0 1 0 9jm 1 2,0 8 1 9jo 1 2,0 1 0 9jl 1 2,0 1 0 9jn 1 2,0 g 1 9jx 1 2,0 1 0 9jw 1 2,
  0 1 0 0 4v 2,3 2 1 4e 1 2,0 3 1 gm 1 2,0 a 1 61u 1 2,3 3 1 9j1 1 2,0 a 1 61u 1 2,
  0 10 1 aiu 1 2,0 2 1 5t 1 2,0 1 0 6h4 1 3,0 1 0 6ha 1 3,0 1 0 6iz 1 3,0 1 0 6j8 1 3,
  0 2 0 6jb 1 3,0 1 0 6kk 1 3,0 1 0 6kp 1 g,0 1 0 6jk 1 g,7 1 0 6nr 1 g,0 1 0 6nt 1 g,
  0 1 0 6nv 1 g,0 1 0 6nx 1 g,0 1 0 6nz 1 g,0 1 0 6o1 1 g,0 1 0 6o3 1 g,0 1 0 6o7 1 g,
  0 1 0 6o9 1 g,0 1 0 6ob 1 g,0 1 0 6od 1 g,0 1 0 6of 1 g,0 1 0 6oh 1 g,0 1 0 6ol 1 g,
  0 1 0 6on 1 g,0 1 0 6op 1 g,0 1 0 6or 1 g,0 1 0 6ot 1 g,0 1 0 6ov 1 g,0 1 0 6oz 1 g,
  0 1 0 6p1 1 g,0 1 0 6p3 1 g,0 1 0 6p5 1 g,0 1 0 6p7 1 g,0 1 0 6p9 1 g,0 1 0 6pb 1 g,
  0 1 0 6pd 1 g,0 1 0 6pf 1 g,0 1 0 6ph 1 g,0 1 0 6pj 1 g,0 1 0 6pl 1 g,0 1 0 6pp 1 g,
  0 1 0 6pr 1 g,0 1 0 6o5 1 g,0 1 0 6oj 1 g,0 1 0 6ox 1 g,0 1 0 6pn 1 g,0 1 0 6pt 1 g,
  0 2 1 6pv 1 g,0 3 1 6py 1 g,2 1 0 6q1 1 g,0 2 1 6q3 1 g,0 8 1 h5 1 2,8 p 0 0 0 0,
  0 1 0 7kq 1 2,0 3 0 7kq 1 g,0 1 0 0 4x 2,0 4 0 7kq 1 g,0 2 0 0 4y 2,0 1 0 0 0 0,
  0 2 1 7kr 1 2,0 3 0 0 0 0,0 1 0 7kq 1 g,5 1 0 625 1 2,0 2 1 629 1 2,0 1 0 62m 1 2,
  0 1 0 62u 1 2,0 2 1 634 1 2,0 1 0 63i 1 2,0 1 0 63z 1 2,0 1 0 659 1 2,0 1 0 65j 1 2,
  0 1 0 65p 1 2,0 1 0 662 1 2,0 1 0 66r 1 2,0 1 0 672 1 2,0 1 0 67i 1 2,0 1 0 67w 1 2,
  0 1 0 67j 1 2,0 1 0 67x 1 2,0 1 0 67s 1 2,0 1 0 67m 1 2,0 1 0 68a 1 2,0 2 1 682 1 2,
  0 1 0 68c 1 2,0 1 0 68y 1 2,0 1 0 692 1 2,0 1 0 6ad 1 2,0 1 0 6ar 1 2,0 2 1 6at 1 2,
  0 1 0 6ba 1 2,0 1 0 6bf 1 2,0 1 0 6bo 1 2,0 1 0 6c8 1 2,0 1 0 6cj 1 2,0 2 1 6dm 1 2,
  0 1 0 6e6 1 2,0 1 0 6ek 1 2,0 1 0 6eq 1 2,0 1 0 6ev 1 2,0 1 0 6f6 1 2,0 1 0 6ie 1 2,
  0 1 0 624 1 t,0 1 0 624 2 p 63h 1 n,0 1 0 62i 1 r,0 1 0 62l 1 2,0 1 0 633 1 r,0 1 0 63h 1 t,
  0 1 0 63p 1 p,0 1 0 64d 1 r,0 1 0 64s 1 t,0 1 0 654 1 t,0 1 0 65h 1 r,0 1 0 65o 1 t,
  0 1 0 65z 1 t,0 1 0 66q 1 t,0 1 0 66z 1 t,0 1 0 671 1 2,0 1 0 67h 1 t,0 1 0 689 1 p,
  0 1 0 68b 1 t,0 1 0 68u 1 t,0 1 0 6ac 1 t,0 1 0 6aq 1 r,0 1 0 6bn 1 u,0 1 0 624 1 n,
  0 1 0 62c 1 p,0 1 0 62d 1 o,0 1 0 62a 1 g,0 1 0 62i 1 n,0 1 0 633 1 n,0 1 0 63h 1 n,
  0 1 0 63r 1 k,0 1 0 63t 1 o,0 1 0 63z 1 g,0 1 0 64d 1 n,0 1 0 659 1 g,0 1 0 65o 1 n,
  0 1 0 66q 1 n,0 1 0 67d 1 o,0 1 0 67h 1 n,0 1 0 67v 1 p,0 2 1 682 1 g,0 1 0 68b 1 n,
  0 1 0 6ac 1 n,0 1 0 6aq 1 n,0 1 0 6at 1 g,0 1 0 6b8 1 p,0 1 0 6be 1 n,0 1 0 6dn 1 g,
  0 1 0 6e4 1 o,0 1 0 6e5 1 l,0 1 0 6e7 1 r,0 1 0 6f3 1 o,0 1 0 6f4 1 l,0 1 0 654 1 p,
  0 1 0 68u 1 p,0 1 0 6aq 1 p,0 1 0 6be 1 p,0 1 0 6e4 1 s,0 1 0 6e5 1 q,0 1 0 6eu 1 q,
  0 1 0 6f3 1 s,0 1 0 6f4 1 q,0 1 0 6av 1 2,0 1 0 62n 1 2,0 1 0 637 1 2,0 1 0 648 1 2,
  0 1 0 66s 1 2,0 1 0 673 1 2,0 1 0 68f 1 2,0 1 0 690 1 2,0 1 0 69d 1 2,0 1 0 69u 1 2,
  0 1 0 6ag 1 2,0 1 0 6ca 1 2,0 1 0 64n 1 2,0 1 0 6iq 1 o,0 1 0 64d 2 2,0 1 0 6ac 2 2 64s 1 4,
  0 1 0 65b 1 2,0 1 0 65g 1 2,0 1 0 68d 1 2,0 1 0 6b1 1 2,0 1 0 6bd 1 2,0 1 0 62p 1 2,
  0 1 0 638 1 2,0 1 0 649 1 2,0 1 0 64k 1 2,0 1 0 65q 1 2,0 1 0 66d 1 2,0 1 0 66t 1 2,
  0 1 0 677 1 2,0 1 0 68g 1 2,0 1 0 697 1 2,0 1 0 69v 1 2,0 1 0 6a5 1 2,0 1 0 6bh 1 2,
  0 1 0 6bs 1 2,0 1 0 6cb 1 2,0 1 0 627 1 2,0 1 0 62f 1 2,0 1 0 63c 1 2,0 1 0 63m 1 2,
  0 1 0 63u 1 2,0 1 0 63y 1 2,0 1 0 63s 1 2,0 1 0 65d 1 2,0 1 0 67z 1 2,0 1 0 6a6 1 2,
  0 1 0 6b2 1 2,0 1 0 6cm 1 2,0 1 0 62g 1 p,0 1 0 62t 1 n,0 1 0 630 1 p,0 1 0 633 2 p,
  0 1 0 63x 1 p,0 1 0 644 1 n,0 1 0 65m 1 g,0 1 0 64f 1 p,0 1 0 6b5 1 p,0 1 0 65a 1 p,
  0 1 0 65f 1 p,0 1 0 656 1 p,0 1 0 65b 1 g,0 1 0 65l 1 p,0 1 0 66e 1 g,0 1 0 66d 1 g,
  0 1 0 660 1 p,0 1 0 66u 1 p,0 1 0 6bb 1 g,0 1 0 674 1 p,0 1 0 678 1 g,0 1 0 670 1 p,
  0 1 0 685 1 p,0 1 0 68l 1 g,0 1 0 69w 1 o,0 1 0 6a3 1 o,0 1 0 6ah 1 g,0 1 0 6ay 1 p,
  0 1 0 6bc 1 p,0 1 0 6ar 1 g,0 1 0 6bi 1 p,0 1 0 6bm 1 p,0 1 0 6c7 1 n,0 2 1 6cd 1 p,
  0 1 0 6ci 1 o,0 1 0 6ef 1 s,0 2 0 0 w 2,0 1 0 0 x 2,0 7 0 0 w 2,0 1 0 68u 1 4,0 4 0 0 w 2,
  0 2 0 0 x 2,0 1 0 0 w 2,0 1 0 6d1 1 3,0 1 0 624 2 2,0 1 0 624 2 2 63h 1 4,
  0 1 0 624 1 4 67h 1 4,0 1 0 624 1 4 6be 1 4,0 1 0 62t 1 4 0 t g,0 1 0 633 8 2,0 1 0 633 2 2,
  0 1 0 64d 1 4,0 1 0 64i 1 g,0 1 0 65o 1 4,0 1 0 65z 1 4,0 1 0 660 1 g,0 1 0 66r 1 g,
  0 1 0 66z 1 4,0 1 0 670 1 g,0 1 0 68w 1 3,0 1 0 68u 8 2,0 1 0 69r 1 4,0 1 0 69r 5 2,
  0 1 0 6c7 1 4,0 1 0 62d 1 3,0 1 0 62i 1 4,0 1 0 62s 1 g,0 1 0 63r 1 3,0 1 0 644 1 4,
  0 1 0 667 1 g,0 1 0 67h 1 4 0 x g,0 1 0 68b 1 4,0 1 0 6a3 1 3,0 1 0 6aq 1 4 0 x g,
  0 1 0 6bn 1 5,0 1 0 624 1 4 0 o g,0 1 0 67h 1 4 0 o g,0 1 0 6aq 1 4 0 o g,0 4 0 0 w 2,
  0 2 0 0 x 2,0 1 0 0 w 2,0 2 0 0 x 2,0 1 0 0 w 2,0 1 0 0 x 2,4a 1 0 624 1 4 6df 1 g,
  1 2 1 6a1 1 2,0 1 0 69r 2 g 69r 1 h,0 1 0 63g 1 2,2i 1 0 65z 1 h 65z 1 h,
  0 1 0 65z 1 4 65z 1 4,0 1 0 6bl 1 g,0 1 0 6bl 1 2,0 1 0 6c4 1 g,0 1 0 6c4 1 2,59 1 0 kg 1 2,
  1 1 0 kg 1 2,0 1 0 ki 1 2,1p 1 0 kh 1 2,3 5 0 a 1 9,0 1 0 a 1 l,0 3 0 a 1 9,0 5 0 0 0 0,
  0 1 0 k 1 2,0 1 0 k 1 g,0 4 1 l 1 2,0 1 0 bu 1 2,0 1 0 d 1 2,0 1 0 8g 2 2,0 1 0 8g 4 2,
  0 1 0 8g 7 2,0 1 0 8g 9 2,0 1 0 8j 2 2,0 1 0 8j 3 2,0 1 0 8j 5 2,0 1 0 8j 7 2,0 2 1 cp 1 2,
  0 2 1 cv 1 2,0 1 0 3m 1 9,0 1 0 3m 1 9 3m 1 9,0 1 0 3m 1 9 3m 1 9 3m 1 9,0 1 0 cx 1 2,
  0 2 1 8 1 2,0 5 0 0 0 0,0 1 0 a 1 l,0 1 0 cl 1 2,0 1 0 cn 1 2,0 1 0 d1 1 2,
  0 1 0 d1 1 g d1 1 g,0 1 0 d1 1 g d1 1 g d1 1 g,0 1 0 d2 1 2,0 1 0 d2 1 g d2 1 g,
  0 1 0 d2 1 g d2 1 g d2 1 g,0 1 0 d5 1 2,0 2 1 8h 1 2,0 1 0 d6 1 2,0 1 0 2x 1 9 2x 1 9,
  0 1 0 3k 1 2,0 1 0 b 1 2,0 1 0 d7 1 2,0 1 0 d9 1 2,0 2 1 db 1 2,0 1 0 cy 1 2,0 1 0 xk 1 2,
  0 2 1 8y 1 2,0 1 0 34 1 c 34 1 c,0 1 0 34 1 c 2x 1 9,0 1 0 2x 1 9 34 1 c,0 1 0 cg 1 2,
  0 1 0 c3 1 2,0 2 1 cz 1 2,0 1 0 c8 1 2,0 1 0 1q 1 2,0 1 0 da 1 2,0 1 0 c9 1 2,0 1 0 xg 1 2,
  0 1 0 r 1 2,0 1 0 d8 1 2,0 2 1 7l 1 2,0 1 0 d1 1 g d1 1 g d1 1 g d1 1 g,0 7 1 7n 1 2,
  0 1 0 a 1 9,0 5 0 0 0 0,1 a 0 0 0 0,0 1 0 61u 1 i,0 1 0 654 1 n,2 5 1 61y 1 i,0 1 0 623 1 l,
  0 1 0 x4 1 l,0 1 0 xf 1 g,0 1 0 x9 1 l,0 2 1 8m 1 j,0 1 0 66z 1 n,0 9 1 61u 1 m,
  0 1 0 623 1 p,0 1 0 x4 1 q,0 1 0 xf 1 p,0 1 0 x9 1 q,0 2 1 8m 1 o,1 1 0 624 1 p,
  0 1 0 63h 1 p,0 1 0 67h 1 p,0 1 0 6br 1 p,0 1 0 63r 1 r,0 1 0 64s 1 p,0 1 0 65o 1 p,
  0 1 0 65z 1 p,0 1 0 66q 1 p,0 1 0 66z 1 p,0 1 0 68b 1 p,0 1 0 69r 1 p,0 1 0 6ac 1 p,
  3 7 1 5mv 1 2,0 1 0 68b 1 h 6ac 1 4 69r 1 4,0 1 0 5nr 1 2,0 h 1 5n2 1 2,0 7 1 5nk 1 2,
  f 1 0 0 6z 2,0 1 0 0 70 2,0 2 0 0 71 2,0 1 0 0 72 2,0 1 0 0 73 2,0 1 0 0 74 2,0 1 0 0 75 2,
  0 3 0 0 y 2,0 1 0 0 76 2,0 1 0 0 77 2,0 4 0 0 z 2,0 1 0 0 78 2,0 3 0 0 z 2,0 1 0 0 y 2,
  0 1 0 0 79 2,0 1 0 0 7a 2,0 1 0 0 7b 2,0 1 0 0 7c 2,0 2 0 0 y 2,0 4 0 0 x 2,0 1 0 0 w 2,
  f 1 0 624 1 4 cc 1 p 62t 1 4,0 1 0 624 1 4 cc 1 p 69r 1 4,0 1 0 62t 1 j,0 1 0 nr 1 g 62t 1 h,
  0 1 0 t4 1 2,0 1 0 62t 1 4 cc 1 p 67h 1 4,0 1 0 62t 1 4 cc 1 p 6aq 1 4,0 1 0 63t 1 e,
  0 1 0 t5 1 2,0 1 0 nr 1 g 644 1 h,0 1 0 64d 1 7,0 3 0 64s 1 j,0 1 0 64s 1 7,
  0 1 0 64s 1 2 0 12 2,0 2 0 654 1 j,0 1 0 65z 1 j,0 1 0 65z 1 7,0 1 0 t6 1 2,0 1 0 66z 1 j,
  0 1 0 66z 1 h 67h 1 4,0 2 1 t7 1 2,0 1 0 68b 1 j,0 1 0 68n 1 j,0 3 0 68u 1 j,0 2 1 t9 1 2,
  0 1 0 69r 1 n 66q 1 n,0 1 0 6ac 1 h 63h 1 h 65z 1 h,0 1 0 6ac 1 n 66q 1 n,0 1 0 tb 1 2,
  0 1 0 6c7 1 j,0 1 0 tc 1 2,1 1 0 td 1 2,0 1 0 6c7 1 j,0 1 0 te 1 2,2 1 0 62i 1 j,
  0 1 0 62t 1 j,0 1 0 tf 1 2,0 1 0 63h 1 7,0 1 0 63h 1 j,0 1 0 644 1 j,0 1 0 64b 1 g,
  0 1 0 66q 1 j,0 1 0 67h 1 7,0 4 1 6ra 1 g,0 1 0 654 1 7,0 1 0 tg 1 2,
  0 1 0 644 1 h 624 1 h 6br 1 h,0 1 0 6ep 1 c,0 1 0 6e5 1 3,0 1 0 6e5 1 g,0 1 0 6ep 1 r,
  0 1 0 x3 1 g,0 4 1 th 1 2,0 1 0 633 1 j,0 1 0 633 1 7,0 1 0 63h 1 7,0 1 0 654 1 7,
  0 1 0 65h 1 7,0 1 0 tl 1 2,0 1 0 11f 1 2,0 1 0 tm 1 2,0 1 0 624 1 h cc 1 p 69r 1 h,
  0 1 0 64b 1 2,0 1 0 tn 1 2,0 1 0 61v 1 s xk 1 g 621 1 s,0 1 0 61v 1 s xk 1 g 623 1 t,
  0 1 0 61v 1 s xk 1 g 61v 1 s 61u 1 s,0 1 0 61v 1 s xk 1 g 61x 1 s,
  0 1 0 61w 1 s xk 1 g 61x 1 s,0 1 0 61v 1 s xk 1 g 61z 1 s,0 1 0 61w 1 s xk 1 g 61z 1 s,
  0 1 0 61x 1 s xk 1 g 61z 1 s,0 1 0 61y 1 s xk 1 g 61z 1 s,0 1 0 61v 1 s xk 1 g 620 1 s,
  0 1 0 61z 1 s xk 1 g 620 1 s,0 1 0 61v 1 s xk 1 g 622 1 s,0 1 0 61x 1 s xk 1 g 622 1 s,
  0 1 0 61z 1 s xk 1 g 622 1 s,0 1 0 621 1 s xk 1 g 622 1 s,0 1 0 61v 1 s xk 1 g,0 1 0 654 1 h,
  0 1 0 654 1 h 654 1 h,0 1 0 654 1 h 654 1 h 654 1 h,0 1 0 654 1 h 6be 1 h,0 1 0 6be 1 h,
  0 1 0 6be 1 h 654 1 h,0 1 0 6be 1 h 654 1 h 654 1 h,0 1 0 6be 1 h 654 1 h 654 1 h 654 1 h,
  0 1 0 654 1 h 6br 1 h,0 1 0 6br 1 h,0 1 0 6br 1 h 654 1 h,0 1 0 6br 1 h 654 1 h 654 1 h,
  0 1 0 65z 1 h,0 1 0 62t 1 h,0 1 0 633 1 h,0 1 0 66q 1 h,0 1 0 654 1 4,0 1 0 654 1 4 654 1 4,
  0 1 0 654 1 4 654 1 4 654 1 4,0 1 0 654 1 4 6be 1 4,0 1 0 6be 1 4,0 1 0 6be 1 4 654 1 4,
  0 1 0 6be 1 4 654 1 4 654 1 4,0 1 0 6be 1 4 654 1 4 654 1 4 654 1 4,0 1 0 654 1 4 6br 1 4,
  0 1 0 6br 1 4,0 1 0 6br 1 4 654 1 4,0 1 0 6br 1 4 654 1 4 654 1 4,0 1 0 65z 1 4,
  0 1 0 62t 1 4,0 1 0 633 1 4,0 1 0 66q 1 4,0 3 1 5pq 1 2,0 1 0 631 1 g,0 1 0 631 1 2,
  0 1 0 620 1 2,0 3 1 5pt 1 2,0 1 0 61u 1 s xk 1 g 61x 1 s,0 2 1 to 1 2,4 1 0 tq 1 2,
  0 1 0 ts 1 2,0 1 0 tr 1 2,0 7 1 tt 1 2,2 i 1 u0 1 2,1 u 1 ui 1 2,3 1g 1 vc 1 2,1 4 1 ws 1 2,
  1 2 1 ww 1 2,1 1 0 wy 1 2,0 4 1 x0 1 2,0 1 0 xf 1 2,0 3 1 xh 1 2,0 6 1 xl 1 2,0 1 0 xs 1 2,
  0 7 1 xu 1 2,1 1 0 y1 1 2,1 5 1 y2 1 2,0 1 0 y6 1 g y6 1 g,0 1 0 y6 1 g y6 1 g y6 1 g,
  0 1 0 y7 1 2,0 1 0 y7 1 g y7 1 g,0 1 0 y7 1 g y7 1 g y7 1 g,0 g 1 y8 1 2,1 2 1 yo 1 2,
  1 2 1 yq 1 2,1 1 0 ys 1 2,1 m 1 yt 1 2,1 1 0 zf 1 2,1 a 1 zg 1 2,5 2 1 zq 1 2,2 2 1 zs 1 2,
  2 6 1 zu 1 2,2 2 1 100 1 2,2 2 1 102 1 2,2 y 1 104 1 2,4 d 1 112 1 2,0 z 1 11g 1 2,
  4 6 1 12f 1 2,4 q 1 12l 1 2,0 4 1 90 1 2,0 t 1 13b 1 2,2 70 1 144 1 2,p b 1 1b4 1 2,
  l 8 1 61v 1 f,0 1 0 623 1 h,0 1 0 61v 1 f 61u 1 f,0 1 0 61v 1 f 61v 1 f,
  0 1 0 61v 1 f 61w 1 f,0 1 0 61v 1 f 61x 1 f,0 1 0 61v 1 f 61y 1 f,0 1 0 61v 1 f 61z 1 f,
  0 1 0 61v 1 f 620 1 f,0 1 0 61v 1 f 621 1 f,0 1 0 61v 1 f 622 1 f,0 1 0 61v 1 f 623 1 h,
  0 1 0 61w 1 f 61u 1 f,0 1 0 8m 1 8 61v 1 6 8n 1 8,0 1 0 8m 1 8 61w 1 6 8n 1 8,
  0 1 0 8m 1 8 61x 1 6 8n 1 8,0 1 0 8m 1 8 61y 1 6 8n 1 8,0 1 0 8m 1 8 61z 1 6 8n 1 8,
  0 1 0 8m 1 8 620 1 6 8n 1 8,0 1 0 8m 1 8 621 1 6 8n 1 8,0 1 0 8m 1 8 622 1 6 8n 1 8,
  0 1 0 8m 1 8 623 1 7 8n 1 8,0 1 0 8m 1 8 61v 1 6 61u 1 6 8n 1 8,
  0 1 0 8m 1 8 61v 1 6 61v 1 6 8n 1 8,0 1 0 8m 1 8 61v 1 6 61w 1 6 8n 1 8,
  0 1 0 8m 1 8 61v 1 6 61x 1 6 8n 1 8,0 1 0 8m 1 8 61v 1 6 61y 1 6 8n 1 8,
  0 1 0 8m 1 8 61v 1 6 61z 1 6 8n 1 8,0 1 0 8m 1 8 61v 1 6 620 1 6 8n 1 8,
  0 1 0 8m 1 8 61v 1 6 621 1 6 8n 1 8,0 1 0 8m 1 8 61v 1 6 622 1 6 8n 1 8,
  0 1 0 8m 1 8 61v 1 6 623 1 7 8n 1 8,0 1 0 8m 1 8 61w 1 6 61u 1 6 8n 1 8,0 1 0 61v 1 6 3m 1 9,
  0 1 0 61w 1 6 3m 1 9,0 1 0 61x 1 6 3m 1 9,0 1 0 61y 1 6 3m 1 9,0 1 0 61z 1 6 3m 1 9,
  0 1 0 620 1 6 3m 1 9,0 1 0 621 1 6 3m 1 9,0 1 0 622 1 6 3m 1 9,0 1 0 623 1 7 3m 1 9,
  0 1 0 61v 1 6 61u 1 6 3m 1 9,0 1 0 61v 1 6 61v 1 6 3m 1 9,0 1 0 61v 1 6 61w 1 6 3m 1 9,
  0 1 0 61v 1 6 61x 1 6 3m 1 9,0 1 0 61v 1 6 61y 1 6 3m 1 9,0 1 0 61v 1 6 61z 1 6 3m 1 9,
  0 1 0 61v 1 6 620 1 6 3m 1 9,0 1 0 61v 1 6 621 1 6 3m 1 9,0 1 0 61v 1 6 622 1 6 3m 1 9,
  0 1 0 61v 1 6 623 1 7 3m 1 9,0 1 0 61w 1 6 61u 1 6 3m 1 9,0 1 0 8m 1 8 624 1 4 8n 1 8,
  0 1 0 8m 1 8 62i 1 4 8n 1 8,0 1 0 8m 1 8 62t 1 4 8n 1 8,0 1 0 8m 1 8 633 1 4 8n 1 8,
  0 1 0 8m 1 8 63h 1 4 8n 1 8,0 1 0 8m 1 8 644 1 4 8n 1 8,0 1 0 8m 1 8 64d 1 4 8n 1 8,
  0 1 0 8m 1 8 64s 1 4 8n 1 8,0 1 0 8m 1 8 654 1 4 8n 1 8,0 1 0 8m 1 8 65h 1 4 8n 1 8,
  0 1 0 8m 1 8 65o 1 4 8n 1 8,0 1 0 8m 1 8 65z 1 4 8n 1 8,0 1 0 8m 1 8 66q 1 4 8n 1 8,
  0 1 0 8m 1 8 66z 1 4 8n 1 8,0 1 0 8m 1 8 67h 1 4 8n 1 8,0 1 0 8m 1 8 68b 1 4 8n 1 8,
  0 1 0 8m 1 8 68n 1 4 8n 1 8,0 1 0 8m 1 8 68u 1 4 8n 1 8,0 1 0 8m 1 8 69r 1 4 8n 1 8,
  0 1 0 8m 1 8 6ac 1 4 8n 1 8,0 1 0 8m 1 8 6aq 1 4 8n 1 8,0 1 0 8m 1 8 6be 1 4 8n 1 8,
  0 1 0 8m 1 8 6bn 1 5 8n 1 8,0 1 0 8m 1 8 6br 1 4 8n 1 8,0 1 0 8m 1 8 6c0 1 4 8n 1 8,
  0 1 0 8m 1 8 6c7 1 4 8n 1 8,0 1 0 624 1 l,0 1 0 62i 1 l,0 1 0 62t 1 l,0 1 0 633 1 l,
  0 1 0 63h 1 l,0 1 0 644 1 l,0 1 0 64d 1 l,0 1 0 64s 1 l,0 1 0 654 1 l,0 1 0 65h 1 l,
  0 1 0 65o 1 l,0 1 0 65z 1 l,0 1 0 66q 1 l,0 1 0 66z 1 l,0 1 0 67h 1 l,0 1 0 68b 1 l,
  0 1 0 68n 1 l,0 1 0 68u 1 l,0 1 0 69r 1 l,0 1 0 6ac 1 l,0 1 0 6aq 1 l,0 1 0 6be 1 l,
  0 1 0 6bn 1 q,0 1 0 6br 1 l,0 1 0 6c0 1 l,0 1 0 6c7 1 l,0 1 0 624 1 a,0 1 0 62i 1 a,
  0 1 0 62t 1 a,0 1 0 633 1 a,0 1 0 63h 1 a,0 1 0 644 1 a,0 1 0 64d 1 a,0 1 0 64s 1 a,
  0 1 0 654 1 a,0 1 0 65h 1 a,0 1 0 65o 1 a,0 1 0 65z 1 a,0 1 0 66q 1 a,0 1 0 66z 1 a,
  0 1 0 67h 1 a,0 1 0 68b 1 a,0 1 0 68n 1 a,0 1 0 68u 1 a,0 1 0 69r 1 a,0 1 0 6ac 1 a,
  0 1 0 6aq 1 a,0 1 0 6be 1 a,0 1 0 6bn 1 c,0 1 0 6br 1 a,0 1 0 6c0 1 a,0 1 0 6c7 1 a,
  0 1 0 61u 1 f,0 1 0 61v 1 f 61v 1 f,0 1 0 61v 1 f 61w 1 f,0 1 0 61v 1 f 61x 1 f,
  0 1 0 61v 1 f 61y 1 f,0 1 0 61v 1 f 61z 1 f,0 1 0 61v 1 f 620 1 f,0 1 0 61v 1 f 621 1 f,
  0 1 0 61v 1 f 622 1 f,0 1 0 61v 1 f 623 1 h,0 1 0 61w 1 f 61u 1 f,0 8 1 61v 1 f,
  0 1 0 623 1 h,0 1 0 61v 1 f 61u 1 f,0 1 0 61u 1 f,0 74 1 1bf 1 2,0 1c 1 1o5 1 2,
  0 8 1 2sw 1 2,0 1h 1 1ph 1 2,0 3 1 3cn 1 2,0 q 1 1qy 1 2,0 6 1 2sq 1 2,0 34 1 1ro 1 2,
  0 x 1 1vi 1 2,0 1z 1 1wh 1 2,0 e 1 a4 1 2,0 8 1 61v 1 f,0 1 0 623 1 h,0 1 0 61v 1 f 61u 1 f,
  0 8 1 61v 1 f,0 1 0 623 1 h,0 1 0 61v 1 f 61u 1 f,0 8 1 61v 1 f,0 1 0 623 1 h,
  0 1 0 61v 1 f 61u 1 f,0 1d 1 1yg 1 2,0 2 1 9s 1 2,0 v 1 1zt 1 2,0 a 1 9u 1 2,0 g 1 20o 1 2,
  0 74 1 2lm 1 2,0 3n 1 214 1 2,0 m 1 96 1 2,0 1r 1 24r 1 2,0 4 1 bw 1 2,0 w 1 26i 1 2,
  0 2 1 94 1 2,0 e 1 27e 1 2,0 1 0 y6 1 g y6 1 g y6 1 g y6 1 g,0 2v 1 27s 1 2,
  0 1 0 1u 1 c 1u 1 c x9 1 9,0 1 0 x9 1 9 x9 1 9,0 1 0 x9 1 9 x9 1 9 x9 1 9,0 2t 1 2an 1 2,
  1 47 1 2dg 1 2,2 w 1 2hn 1 2,1 2x 1 2ij 1 2,0 7 1 6ld 1 p,0 1 0 6lk 1 g,0 h 1 6ll 1 p,
  0 2 1 6m2 1 g,0 7 1 6m4 1 p,0 1 0 6mb 1 g,0 2 1 6mc 1 p,0 1 0 6me 1 g,0 5 1 6mf 1 p,
  0 5 1 6mk 1 g,0 1c 1 6ld 1 2,0 1 0 665 1 g,0 1 0 665 1 2,0 1 0 666 1 g,0 1 0 68d 1 g,
  0 1 0 699 1 g,0 1 0 626 1 2,0 1 0 6af 1 2,0 1 0 64x 1 g,0 1 0 64x 1 2,0 1 0 65s 1 g,
  0 1 0 65s 1 2,0 1 0 6cg 1 g,0 1 0 6cg 1 2,0 1 0 62d 1 e,0 1 0 66u 1 g,0 1 0 62c 1 g,
  0 1 0 62g 1 g,0 1 0 6bj 1 2,0 1 0 6bp 1 g,0 1 0 6bp 1 2,0 1 0 6bk 1 2,0 1 0 64y 1 g,
  0 1 0 64y 1 2,0 1 0 68m 1 2,0 1 0 63o 1 2,0 1 0 696 1 2,0 1 0 684 1 2,0 1 0 63q 1 2,
  0 1 0 65h 1 p,0 1 0 6be 1 t,0 1 0 69z 1 g,0 1 0 6cf 1 g,0 1 0 6fc 1 p,0 1 0 6fc 1 2,
  0 1 0 6fd 1 g,0 1 0 6fd 1 2,0 1 0 6fe 1 g,0 1 0 6fe 1 2,0 1 0 6ff 1 g,0 1 0 6ff 1 2,
  0 1 0 6fg 1 g,0 1 0 6fg 1 2,0 1 0 6fi 1 g,0 1 0 6fi 1 2,0 1 0 6fj 1 g,0 1 0 6fj 1 2,
  0 1 0 6fk 1 g,0 1 0 6fk 1 2,0 1 0 6fl 1 g,0 1 0 6fl 1 2,0 1 0 6fm 1 p,0 1 0 6fm 1 2,
  0 1 0 6fn 1 p,0 1 0 6fn 1 2,0 1 0 6fp 1 g,0 1 0 6fp 1 2,0 1 0 6fq 1 g,0 1 0 6fq 1 2,
  0 1 0 6fr 1 g,0 1 0 6fr 1 2,0 1 0 6fu 1 g,0 1 0 6fu 1 2,0 1 0 6fv 1 g,0 1 0 6fv 1 2,
  0 1 0 6fw 1 g,0 1 0 6fw 1 2,0 1 0 6fx 1 g,0 1 0 6fx 1 2,0 1 0 6fy 1 g,0 1 0 6fy 1 2,
  0 1 0 6fz 1 g,0 1 0 6fz 1 2,0 1 0 6g0 1 g,0 1 0 6g0 1 2,0 1 0 6g1 1 g,0 1 0 6g1 1 2,
  0 1 0 6g2 1 g,0 1 0 6g2 1 2,0 1 0 6g3 1 g,0 1 0 6g3 1 2,0 1 0 6g4 1 g,0 1 0 6g4 1 2,
  0 1 0 6gv 1 g,0 1 0 6gv 1 2,0 1 0 6gw 1 g,0 1 0 6gw 1 2,0 1 0 6fh 1 g,0 1 0 6fh 1 2,
  0 1 0 6fo 1 g,0 1 0 6fo 1 2,0 1 0 6fs 1 g,0 1 0 6fs 1 2,0 1 0 6ft 1 g,0 1 0 6ft 1 2,
  0 1 0 6g5 1 g,0 1 0 6g5 1 2,0 1 0 6g6 1 g,0 1 0 6g6 1 2,0 1 0 6g9 1 g,0 1 0 6g9 1 2,
  0 1 0 6ga 1 g,0 1 0 6ga 1 2,0 1 0 6gb 1 g,0 1 0 6gb 1 2,0 1 0 6gf 1 g,0 1 0 6gf 1 2,
  0 1 0 6gh 1 g,0 1 0 6gh 1 2,0 1 0 6gi 1 g,0 1 0 6gi 1 2,0 1 0 6gj 1 g,0 1 0 6gj 1 2,
  0 1 0 6gk 1 g,0 1 0 6gk 1 2,0 1 0 6gl 1 g,0 1 0 6gl 1 2,0 1 0 6gm 1 g,0 1 0 6gm 1 2,
  0 1 0 6gp 1 g,0 1 0 6gp 1 2,0 1 0 6gr 1 g,0 1 0 6gr 1 2,0 1 0 6gs 1 g,0 1 0 6gs 1 2,
  0 1 0 6gt 1 g,0 1 0 6gt 1 2,0 1 0 6gx 1 g,0 1 0 6gx 1 2,0 1 0 6gy 1 g,0 1 0 6gy 1 2,
  0 1 0 6gz 1 g,0 1 0 6gz 1 2,0 1 0 6fn 1 g 6fc 1 g 6fm 1 g,0 6 1 2lg 1 2,0 1 0 6g8 1 g,
  0 1 0 6g8 1 2,0 1 0 6go 1 g,0 1 0 6go 1 2,0 1 0 0 w 2,0 1 0 0 g 2,0 1 0 0 f 2,0 1 0 6ge 1 g,
  0 1 0 6ge 1 2,5 1 0 3w 1 2,0 2 1 3d 1 2,0 1 0 7z 1 2,0 1 0 5qi 1 2,0 1 0 3x 1 2,0 1 0 80 1 2,
  0 1 0 6ns 1 2,0 1 0 6nu 1 2,0 1 0 6nw 1 2,0 1 0 6ny 1 2,0 1 0 6o0 1 2,0 1 0 6o2 1 2,
  0 1 0 6o4 1 2,0 1 0 6o8 1 2,0 1 0 6oa 1 2,0 1 0 6oc 1 2,0 1 0 6oe 1 2,0 1 0 6og 1 2,
  0 1 0 6oi 1 2,0 1 0 6om 1 2,0 1 0 6oo 1 2,0 1 0 6oq 1 2,0 1 0 6os 1 2,0 1 0 6ou 1 2,
  0 1 0 6ow 1 2,0 1 0 6p0 1 2,0 1 0 6p2 1 2,0 1 0 6p4 1 2,0 1 0 6p6 1 2,0 1 0 6p8 1 2,
  0 1 0 6pa 1 2,0 1 0 6pc 1 2,0 1 0 6pe 1 2,0 1 0 6pg 1 2,0 1 0 6pi 1 2,0 1 0 6pk 1 2,
  0 1 0 6pm 1 2,0 1 0 6pq 1 2,0 1 0 6ps 1 2,0 1 0 6o6 1 2,0 1 0 6ok 1 2,0 1 0 6oy 1 2,
  0 1 0 6po 1 2,0 1 0 6pu 1 2,1 1 0 6px 1 2,5 1 0 6q2 1 2,2 c 1 73t 1 2,0 o 1 746 1 2,
  0 i 1 74v 1 2,0 1 0 745 1 2,0 1 0 74u 1 2,7 1 0 75d 1 2,0 1 0 hd 1 2,e 1 0 0 0 0,
  0 1 0 75u 1 2,0 1 0 76h 1 2,0 1 0 76y 1 2,0 1 0 777 1 2,0 1 0 77m 1 2,0 1 0 78t 1 2,
  0 1 0 79a 1 2,0 1 0 79j 1 2,0 1 0 7a5 1 2,0 1 0 7ae 1 2,0 1 0 7an 1 2,0 1 0 7c7 1 2,
  0 1 0 7d2 1 2,0 1 0 7dh 1 2,0 1 0 7dq 1 2,0 1 0 7er 1 2,0 1 0 7f0 1 2,0 1 0 7fg 1 2,
  0 1 0 7gw 1 2,0 4 1 7ef 1 2,9 7 1 7h0 1 2,1 7 1 7h7 1 2,1 7 1 7he 1 2,1 7 1 7hl 1 2,
  1 7 1 7hs 1 2,1 7 1 7hz 1 2,1 1 0 7i7 1 2,0 1 0 7i9 1 2,0 1 0 7ib 1 2,0 1 0 7id 1 2,
  0 1 0 7if 1 2,0 1 0 7ih 1 2,0 1 0 7ij 1 2,1 7 1 7ik 1 2,1 3 1 6h3 1 3,0 1 0 6ha 1 3,
  0 1 0 6hj 1 3,0 1 0 6hn 1 3,0 1 0 6i5 1 3,0 1 0 6id 1 3,0 1 0 6in 1 3,0 1 0 6iq 1 3,
  0 1 0 6iz 1 3,0 1 0 6j1 1 3,0 1 0 6j5 1 3,0 1 0 6j8 1 3,0 1 0 6jb 1 3,0 1 0 6jn 1 3,
  0 1 0 6jz 1 3,0 1 0 6k4 1 3,0 1 0 6ke 1 3,0 1 0 6kg 1 g,0 1 0 6l7 1 g,0 1 0 6j8 1 3 6jb 1 3,
  0 1 0 6h0 1 3,0 1 0 6hh 1 3,0 1 0 6i4 1 g,0 1 0 6jk 1 g,0 1 0 6kp 1 g,0 1 0 6ks 1 3,
  0 1 0 6ku 1 g,0 1 0 6ky 1 g,0 1 0 6l0 1 g,0 1 0 6l4 1 g,0 2 1 dd 1 2,0 4 1 ai 1 2,
  0 3 1 df 1 2,0 2 1 am 1 2,0 1 0 di 1 2,0 2 1 ao 1 2,0 9 1 dj 1 2,0 1 0 t 1 2,0 1 0 3l 1 2,
  0 1 0 81 1 2,0 2 1 ds 1 2,0 2 1 aq 1 2,0 2 1 du 1 2,0 a 1 as 1 2,0 4 1 7u 1 2,0 1 0 36 1 2,
  0 1 0 6ki 1 2,0 1 0 3y 1 2,0 1 0 48 1 2,0 1 0 13 1 2,0 1 0 49 1 2,0 1 0 12 1 2,0 1 0 1r 1 2,
  0 3 1 cr 1 2,0 1 0 c1 1 2,0 2 1 p 1 2,0 1 0 3z 1 2,0 1 0 7y 1 2,0 1 0 bv 1 2,0 1 0 c5 1 2,
  0 1 0 u 1 2,0 1 0 14 1 2,0 1 0 8j 8 2,0 1 0 s 1 2,0 5 1 dw 1 2,0 1 0 1t 1 2,0 1 0 ce 1 2,
  0 1 0 cu 1 2,0 1 0 15 1 2,0 1 0 c4 1 2,0 2 1 16 1 2,0 2 1 1wf 1 2,0 1 0 ch 1 2,0 1 0 2z 1 2,
  0 1 0 37 1 2,0 8 1 b2 1 2,0 1 0 v 1 2,y 1 0 1u0m 2 2,0 1 0 1v2a 2 2,0 1 0 1u1n 1 3,
  0 1 0 1u1m 1 3,0 1 0 1u1l 2 2,0 1 0 1u4b 1 3,0 1 0 1uo2 2 2,0 1 0 1uqo 2 2,0 1 0 1urk 2 2,
  0 1 0 1urm 1 3,0 1 0 1v18 2 2,0 1 0 1v1l 2 2,0 1 0 1wr3 2 2,0 1 0 1wr3 8 2,0 1 0 1wrm 2 2,
  0 1 0 1wrn 1 3,0 1 0 1wrm 1 3,0 1 0 1wrn 2 2,0 1 0 1x4j 1 3,0 1 0 1x8a 1 3,0 1 0 1xe9 1 3,
  0 1 0 1xe8 2 2,0 1 0 1xhg 1 3,0 1 0 1xhf 2 2,0 1 0 1xzg 1 3,0 1 0 1yk5 1 3,1 1 0 1yox 1 3,
  0 1 0 1yp1 2 2,0 1 0 1yx4 2 2,0 1 0 1zsq 2 2,0 1 0 1zv1 1 3,0 1 0 1zwx 1 3,0 1 0 1zxx 1 3,
  0 1 0 1zy2 1 3,0 1 0 20rw 1 3,0 1 0 214b 1 3,0 1 0 214b 2 2,0 1 0 1u0c 1 3,0 1 0 215n 2 2,
  0 1 0 217x 1 3,0 1 0 21e3 2 2,0 1 0 21sb 2 2,0 1 0 2226 2 2,0 1 0 22ii 2 2,0 1 0 22ij 1 3,
  0 1 0 22ux 2 2,0 1 0 2395 1 3,0 1 0 23kv 1 3,0 1 0 23pv 1 3,0 1 0 23pu 1 3,0 1 0 23pv 2 2,
  0 1 0 23pv 8 2,0 1 0 23pu 2 2,0 1 0 23re 2 2,0 1 0 23re 8 2,0 1 0 23rf 1 3,0 1 0 23uq 1 3,
  0 1 0 23y8 1 3,0 1 0 23y7 2 2,0 1 0 23yh 2 2,0 1 0 248s 2 2,0 1 0 24c9 1 3,0 1 0 24c9 2 2,
  0 1 0 24c9 8 2,0 1 0 253i 1 3,0 1 0 25ic 1 3,0 1 0 25q8 1 3,0 1 0 25q7 1 3,0 1 0 25s1 1 3,
  0 1 0 25si 1 3,0 1 0 25si 2 2,0 1 0 265c 1 3,0 1 0 26fx 1 3,0 1 0 26k3 2 2,0 1 0 26w6 1 3,
  0 1 0 26ye 1 3,0 1 0 26ye 2 2,0 1 0 26ye 8 2,0 1 0 274h 2 2,0 1 0 27wl 1 3,0 2 1 283b 1 3,
  0 1 0 283j 1 3,0 1 0 286g 1 3,0 1 0 287w 2 2,0 1 0 287x 1 3,0 1 0 28dk 2 2,0 1 0 28gi 1 3,
  0 1 0 28km 1 3,0 1 0 28ol 1 3,0 1 0 28r2 1 3,0 2 1 28ri 1 3,0 1 0 28rk 2 2,0 1 0 28rk 1 3,
  0 1 0 28v7 1 3,0 1 0 28wm 2 2,0 1 0 292k 1 3,0 1 0 2948 2 2,0 1 0 298c 2 2,0 1 0 29h8 1 3,
  0 1 0 29sv 1 3,0 1 0 29v9 2 2,0 1 0 29wm 1 3,0 1 0 29xg 1 3,0 1 0 29z2 1 3,0 1 0 2a16 2 2,
  0 1 0 2a1c 1 3,0 1 0 2a1e 2 2,0 1 0 2a2n 1 3,0 1 0 2a31 2 2,0 1 0 2a3d 1 3,0 1 0 2a3g 2 2,
  0 1 0 2a3g 8 2,0 1 0 2a3j 1 3,c 1 0 1tz4 1 3,0 1 0 1u08 1 3,0 1 0 1u0m 1 3,0 1 0 1u0v 1 3,
  0 1 0 1u1l 1 3,0 1 0 1u2t 1 3,0 1 0 1u30 1 3,0 1 0 1u3k 1 3,0 1 0 1u4a 1 3,0 1 0 1um7 1 3,
  0 1 0 1un9 1 3,0 1 0 1unf 1 3,0 1 0 1uo2 1 3,0 1 0 1uom 1 3,0 1 0 1up7 1 3,0 1 0 1uqo 1 3,
  0 1 0 1ur9 1 3,0 1 0 1urk 1 3,0 1 0 1uvv 1 3,0 1 0 1uyh 1 3,0 1 0 1uz9 1 3,0 1 0 1uze 1 3,
  0 1 0 1v08 1 3,0 1 0 1v0h 1 3,0 1 0 1v18 1 3,0 1 0 1v1l 1 3,0 1 0 1v2a 1 3,0 1 0 1v3q 1 3,
  0 1 0 1v48 1 3,0 1 0 1v4z 1 3,0 1 0 1vpz 1 3,0 1 0 1vrz 1 3,0 1 0 1w4r 1 3,0 1 0 1w5e 1 3,
  0 1 0 1w5m 1 3,0 1 0 1w5x 1 3,0 1 0 1w6f 1 3,0 1 0 1w8j 1 3,0 1 0 1wls 1 3,0 1 0 1wn4 1 3,
  0 1 0 1wqg 1 3,0 1 0 1wr3 1 3,0 1 0 1wrm 1 3,0 1 0 1ws8 1 3,0 1 0 1wtq 1 3,0 1 0 1wtt 1 3,
  0 1 0 1x3v 1 3,0 1 0 1x45 1 3,0 1 0 1x4h 1 3,0 1 0 1x4u 1 3,0 1 0 1x82 1 3,0 1 0 1x8a 1 3,
  0 1 0 1x8f 1 3,0 1 0 1xbo 1 3,0 1 0 1xby 1 3,0 1 0 1xcb 1 3,0 1 0 1xcj 1 3,0 1 0 1xe8 1 3,
  0 1 0 1xep 1 3,0 1 0 1xf7 1 3,0 1 0 1xhf 1 3,0 1 0 1xxk 1 3,0 1 0 1xyu 1 3,0 1 0 1xzf 1 3,
  0 1 0 1yjz 1 3,0 1 0 1yk4 1 3,0 1 0 1ymf 1 3,0 1 0 1ymv 1 3,0 1 0 1yn8 1 3,0 1 0 1ynt 1 3,
  0 1 0 1yow 1 3,0 1 0 1yp1 1 3,0 1 0 1ywg 1 3,0 1 0 1yx4 1 3,0 1 0 1yy0 1 3,0 1 0 1zq8 1 3,
  0 1 0 1zs2 1 3,0 1 0 1zsp 1 3,0 1 0 1zub 1 3,0 1 0 1zuz 1 3,0 1 0 1zv8 1 3,0 1 0 1zvf 1 3,
  0 1 0 1zwv 1 3,0 1 0 1zx0 1 3,0 1 0 1zxw 1 3,0 1 0 20rv 1 3,0 1 0 214a 1 3,0 1 0 214m 1 3,
  0 1 0 214r 1 3,0 1 0 214v 1 3,0 1 0 2153 1 3,0 1 0 215l 1 3,0 1 0 215n 1 3,0 1 0 217w 1 3,
  0 1 0 21dw 1 3,0 1 0 21e1 1 3,0 1 0 21ng 1 3,0 1 0 21nq 1 3,0 1 0 21p4 1 3,0 1 0 21pb 1 3,
  0 1 0 21pk 1 3,0 1 0 21ps 1 3,0 1 0 21sb 1 3,0 1 0 21si 1 3,0 1 0 21yu 1 3,0 1 0 21z1 1 3,
  0 1 0 220e 1 3,0 1 0 220v 1 3,0 1 0 2226 1 3,0 1 0 228r 1 3,0 1 0 228y 1 3,0 1 0 229f 1 3,
  0 1 0 22ii 1 3,0 1 0 22m0 1 3,0 1 0 22m6 1 3,0 1 0 22r8 1 3,0 1 0 22tn 1 3,0 1 0 22ux 1 3,
  0 1 0 235f 1 3,0 1 0 2394 1 3,0 1 0 23p2 1 3,0 1 0 23pt 1 3,0 1 0 23re 1 3,0 1 0 23st 1 3,
  0 1 0 23up 1 3,0 1 0 23v0 1 3,0 1 0 23v6 1 3,0 1 0 23w3 1 3,0 1 0 23y7 1 3,0 1 0 23yh 1 3,
  0 1 0 2483 1 3,0 1 0 248a 1 3,0 1 0 248j 1 3,0 1 0 248s 1 3,0 1 0 2498 1 3,0 1 0 249n 1 3,
  0 1 0 249r 1 3,0 1 0 24by 1 3,0 1 0 24c2 1 3,0 1 0 24c8 1 3,0 1 0 253h 1 3,0 1 0 254b 1 3,
  0 1 0 25hc 1 3,0 1 0 25ho 1 3,0 1 0 25ib 1 3,0 1 0 25q6 1 3,0 1 0 25qj 1 3,0 1 0 25si 1 3,
  0 1 0 25ts 1 3,0 1 0 269j 1 3,0 1 0 269y 1 3,0 1 0 26ad 1 3,0 1 0 26bc 1 3,0 1 0 26cd 1 3,
  0 1 0 26hw 1 3,0 1 0 26i8 1 3,0 1 0 26k3 1 3,0 1 0 26qz 1 3,0 1 0 26ru 1 3,0 1 0 26xn 1 3,
  0 1 0 26y8 1 3,0 1 0 26yd 1 3,0 1 0 274h 1 3,0 1 0 279l 1 3,0 1 0 27d2 1 3,0 1 0 27d8 1 3,
  0 1 0 27dd 1 3,0 1 0 283b 1 3,0 1 0 283k 1 3,0 1 0 287w 1 3,0 1 0 28c6 1 3,0 1 0 28c9 1 3,
  0 1 0 28dk 1 3,0 1 0 28gh 1 3,0 1 0 28gu 1 3,0 1 0 28gy 1 3,0 1 0 28h5 1 3,0 1 0 28jv 1 3,
  0 1 0 28kt 1 3,0 1 0 28kz 1 3,0 1 0 28ld 1 3,0 1 0 28q0 1 3,0 1 0 28rf 1 3,0 1 0 28rj 1 3,
  0 1 0 28wm 1 3,0 1 0 28wp 1 3,0 1 0 28x8 1 3,0 1 0 2948 1 3,0 1 0 295k 1 3,0 1 0 295r 1 3,
  0 1 0 297p 1 3,0 1 0 297z 1 3,0 1 0 2982 1 3,0 1 0 298c 1 3,0 1 0 2996 1 3,0 1 0 29k5 1 3,
  0 1 0 29v9 1 3,0 1 0 29vj 1 3,0 1 0 29wl 1 3,0 1 0 29x7 1 3,0 1 0 29xf 1 3,0 1 0 29xp 1 3,
  0 1 0 29xt 1 3,0 1 0 29yx 1 3,0 1 0 29z1 1 3,0 1 0 29zi 1 3,0 1 0 29zn 1 3,0 1 0 2a00 1 3,
  0 1 0 2a0r 1 3,0 1 0 2a16 1 3,0 1 0 2a1e 1 3,0 1 0 2a31 1 3,0 1 0 2a3g 1 3,0 1 0 2a3k 1 3,
  q g 1 5jp 1 2,0 1 0 a 1 3,0 1 0 1k 1 2,0 1 0 46 1 2,0 1 0 d3 1 2,0 1 0 5l6 1 2,0 1 0 5ly 1 2,
  0 1 0 cjm 1 1 ck8 1 1,0 1 0 61u 1 2,0 a 1 ba 1 2,0 2 1 5l7 1 2,0 8 1 bk 1 2,0 1 0 w 1 2,
  0 1 0 8j a 2,0 1 0 8j b 2,0 1 0 8j c 2,0 1 0 5l9 1 2,0 9 1 61v 1 2,0 1 0 0 6r 2,0 1 0 0 6s 2,
  0 1 0 0 6t 2,0 1 0 0 6u 2,0 1 0 0 6v 2,0 1 0 0 6w 2,0 1 0 x 1 2,0 1 0 5m3 1 2,
  0 1 0 5m3 1 2 0 10 2,0 1 0 5m4 1 2,0 1 0 5m4 1 2 0 10 2,0 1 0 5m5 1 2,0 1 0 5l7 1 g,
  0 1 0 5la 1 2,0 1 0 1v0h 1 3,0 2 1 1v0k 1 3,0 1 0 5lz 1 2,0 1 0 ck5 1 1 cjn 1 1,0 1 0 d4 1 2,
  0 2 1 5lb 1 2,1 1 0 cja 1 1,0 1 0 cja 1 2,0 1 0 cjb 1 1,0 1 0 cjb 1 2,0 1 0 cjc 1 1,
  0 1 0 cjc 1 2,0 1 0 cje 1 1,0 1 0 cje 1 2,0 1 0 cjf 1 1,0 2 1 cjf 1 2,1 1 0 cjh 1 2,
  1 1 0 cji 1 2,1 1 0 cjj 1 2,1 1 0 cjk 1 2,1 1 0 cjl 1 2,1 1 0 cjm 1 2,1 1 0 cjn 1 2,
  1 1 0 cjo 1 2,1 1 0 cjp 1 2,1 1 0 cjq 1 2,1 1 0 cjr 1 2,1 1 0 cjs 1 1,0 1 0 cjs 1 2,
  1 1 0 cjt 1 2,1 1 0 cju 1 2,1 6 1 cjv 1 2,2 1 0 ck1 1 2,2 1 0 ck2 1 2,2 1 0 ck3 1 2,
  2 1 0 ck4 1 2,2 5 1 ck5 1 2,0 1 0 cka 1 1,0 1 0 cka 1 2,0 1 0 ckc 1 1,0 1 0 ckc 1 2,
  0 1 0 cke 1 1,0 6 1 cke 1 2,0 1 0 ckk 1 1,0 2 1 ckk 1 2,0 3 1 ckn 1 2,1 1 0 cjg 1 1,
  0 1 0 cjj 1 1,2 1 0 0 10 2,0 1 0 0 11 2,0 2 1 kj 1 2,0 1 0 5m6 1 2,1 1 0 cke 1 p ckg 1 o,
  0 1 0 y 1 2,0 1 0 cja 1 3,0 1 0 cja 1 e,0 1 0 cjb 1 3,0 1 0 cjb 1 e,0 1 0 cjc 1 3,
  0 1 0 cjc 1 e,0 1 0 cje 1 3,0 1 0 cje 1 e,0 1 0 cjf 1 3,0 1 0 cjf 1 e,0 1 0 cjg 1 9,
  1 1 0 cjh 1 3,1 1 0 cji 1 9,1 1 0 cjj 1 9,1 1 0 cjk 1 8,1 1 0 cjl 1 3,1 1 0 cjm 1 9,
  1 1 0 cjn 1 9,1 1 0 cjo 1 3,1 1 0 cjp 1 3,1 1 0 cjq 1 3,1 1 0 cjr 1 3,1 1 0 cjs 1 3,
  0 1 0 cjs 1 e,1 1 0 cjt 1 3,1 1 0 cju 1 8,1 2 1 cjv 1 3,0 1 0 cjx 1 c,0 2 1 cjy 1 3,
  0 1 0 ck0 1 9,2 1 0 ck1 1 9,2 1 0 ck2 1 9,2 1 0 ck3 1 9,2 1 0 ck4 1 9,2 2 1 ck5 1 3,
  0 1 0 ck7 1 9,0 3 1 ck8 1 3,0 1 0 cka 1 e,0 1 0 ckc 1 3,0 1 0 ckc 1 e,0 1 0 cke 1 3,
  0 1 0 cke 1 d,0 1 0 ckf 1 9,0 1 0 ckg 1 8,0 3 1 ckh 1 9,0 1 0 ckk 1 3,0 1 0 ckk 1 9,
  0 1 0 ckl 1 e,0 1 0 ckn 1 e,0 2 1 cko 1 c,1 1 0 cjg 1 3,0 1 0 cjj 1 3,4 1 0 z 1 2,
  0 2 1 5m7 1 2,1 1 0 cjk 1 o cju 1 o,5 3 1 cso 1 2,0 1 0 css 1 2,0 3 1 csu 1 2,0 3 1 csy 1 2,
  0 4 1 ct3 1 2,0 7 1 cta 1 2,0 2 1 ctk 1 2,0 2 1 ctn 1 2,0 7 1 ctq 1 2,0 1 0 cty 1 2,
  0 4 1 cu1 1 2,0 1 0 cst 1 2,0 1 0 ct1 1 2,0 1 0 ct7 1 2,0 1 0 cu5 1 2,0 1 0 ctn 1 g,
  0 1 0 csx 1 2,1 1 0 c9d 1 3,0 1 0 c9e 1 g,0 1 0 cfj 1 g,0 1 0 c9f 1 3,0 2 1 cfl 1 g,
  0 1 0 c9g 1 3,0 1 0 c9h 1 g,0 1 0 c9i 1 3,0 6 1 cfp 1 g,0 1 0 ca3 1 g,0 2 1 c9j 1 3,
  0 1 0 c9l 1 g,0 1 0 caa 1 g,0 1 0 c9m 1 3,0 1 0 c9n 1 g,0 2 1 c9o 1 3,0 1 0 c9q 1 g,
  0 5 1 c9r 1 3,0 1 0 ccv 1 3,0 7 1 ccw 1 g,0 1 0 cd3 1 3,0 4 1 cd4 1 g,0 1 0 cd8 1 3,
  0 5 1 cd9 1 g,0 1 0 cde 1 3,0 1 0 cdf 1 g,0 1 0 ccu 1 g,0 2 1 c9x 1 g,0 2 1 cgc 1 g,
  0 1 0 cgh 1 g,0 1 0 cgj 1 g,0 1 0 cgo 1 g,0 1 0 cgs 1 g,0 1 0 cgu 1 g,0 1 0 ca5 1 g,
  0 1 0 cgy 1 g,0 1 0 ch0 1 g,0 2 1 ca6 1 g,0 1 0 ca9 1 g,0 2 1 cab 1 g,0 1 0 cag 1 g,
  0 1 0 cai 1 g,0 5 1 cak 1 g,0 1 0 car 1 g,0 1 0 cav 1 g,0 1 0 cb5 1 g,0 1 0 cbc 1 g,
  0 1 0 cbh 1 g,0 2 1 chi 1 g,0 3 1 cbs 1 g,0 2 1 cdu 1 g,0 1 0 cdy 1 g,0 2 1 ce7 1 g,
  0 1 0 cea 1 g,0 1 0 cek 1 g,0 1 0 cen 1 g,1 2 1 5ld 1 2,0 1 0 1tz4 1 k,0 1 0 1u30 1 k,
  0 1 0 1tzd 1 k,0 1 0 1vq3 1 k,0 1 0 1tze 1 k,0 1 0 1u0d 1 k,0 1 0 1tzf 1 k,0 1 0 21pu 1 k,
  0 1 0 1u1l 1 k,0 1 0 1tzt 1 k,0 1 0 1tz5 1 k,0 1 0 1w6h 1 k,0 1 0 1vsg 1 k,0 1 0 1u4a 1 k,
  0 1 0 cso 2 2,0 1 0 cte 2 2,0 1 0 ct4 2 2,0 1 0 csz 2 2,0 1 0 ctp 1 2,0 1 0 ctp 2 2,
  0 1 0 ctm 1 2,0 1 0 ctl 2 2,0 1 0 cu3 8 2,0 1 0 ctk 2 2,0 2 1 cu2 2 2,0 1 0 csr 1 2,
  0 1 0 ct2 1 2,0 1 0 ctq 2 2,0 1 0 cts 2 2,0 2 1 ctz 1 2,0 1 0 ctx 1 2,0 1 0 cu2 2 g,
  0 1 0 csp 1 g,0 1 0 csv 1 g,0 1 0 ct0 1 g,0 1 0 ct3 1 g,0 3 1 cth 1 2,0 1 0 csz 1 g,
  0 2 1 ct8 1 2,0 2 1 cu6 1 2,0 10 1 5k6 1 2,b 1 0 5k5 1 2,0 1 0 cji 1 3,0 2 1 cjm 1 3,
  0 1 0 cju 1 3,0 1 0 cjx 1 3,0 5 1 ck0 1 3,0 1 0 ck7 1 3,0 5 1 ckf 1 3,
  0 1 0 8m 1 8 c9d 1 3 8n 1 8,0 1 0 8m 1 8 c9f 1 3 8n 1 8,0 1 0 8m 1 8 c9g 1 3 8n 1 8,
  0 1 0 8m 1 8 c9i 1 3 8n 1 8,0 1 0 8m 1 8 c9j 1 3 8n 1 8,0 1 0 8m 1 8 c9k 1 3 8n 1 8,
  0 1 0 8m 1 8 c9m 1 3 8n 1 8,0 1 0 8m 1 8 c9o 1 3 8n 1 8,0 1 0 8m 1 8 c9p 1 3 8n 1 8,
  0 1 0 8m 1 8 c9r 1 3 8n 1 8,0 1 0 8m 1 8 c9s 1 3 8n 1 8,0 1 0 8m 1 8 c9t 1 3 8n 1 8,
  0 1 0 8m 1 8 c9u 1 3 8n 1 8,0 1 0 8m 1 8 c9v 1 3 8n 1 8,0 1 0 8m 1 8 c9d 1 3 ccv 1 3 8n 1 8,
  0 1 0 8m 1 8 c9f 1 3 ccv 1 3 8n 1 8,0 1 0 8m 1 8 c9g 1 3 ccv 1 3 8n 1 8,
  0 1 0 8m 1 8 c9i 1 3 ccv 1 3 8n 1 8,0 1 0 8m 1 8 c9j 1 3 ccv 1 3 8n 1 8,
  0 1 0 8m 1 8 c9k 1 3 ccv 1 3 8n 1 8,0 1 0 8m 1 8 c9m 1 3 ccv 1 3 8n 1 8,
  0 1 0 8m 1 8 c9o 1 3 ccv 1 3 8n 1 8,0 1 0 8m 1 8 c9p 1 3 ccv 1 3 8n 1 8,
  0 1 0 8m 1 8 c9r 1 3 ccv 1 3 8n 1 8,0 1 0 8m 1 8 c9s 1 3 ccv 1 3 8n 1 8,
  0 1 0 8m 1 8 c9t 1 3 ccv 1 3 8n 1 8,0 1 0 8m 1 8 c9u 1 3 ccv 1 3 8n 1 8,
  0 1 0 8m 1 8 c9v 1 3 ccv 1 3 8n 1 8,0 1 0 8m 1 8 c9p 1 3 cd8 1 3 8n 1 8,
  0 1 0 8m 1 8 c9o 1 3 cd3 1 3 c9p 1 3 ccz 1 g cfk 1 g 8n 1 8,
  0 1 0 8m 1 8 c9o 1 3 cd3 1 3 c9v 1 3 cd8 1 3 8n 1 8,1 1 0 8m 1 8 1tz4 1 3 8n 1 8,
  0 1 0 8m 1 8 1u30 1 3 8n 1 8,0 1 0 8m 1 8 1tzd 1 3 8n 1 8,0 1 0 8m 1 8 1vq3 1 3 8n 1 8,
  0 1 0 8m 1 8 1u38 1 3 8n 1 8,0 1 0 8m 1 8 1unh 1 3 8n 1 8,0 1 0 8m 1 8 1tz7 1 3 8n 1 8,
  0 1 0 8m 1 8 1unf 1 3 8n 1 8,0 1 0 8m 1 8 1u1p 1 3 8n 1 8,0 1 0 8m 1 8 1v0h 1 3 8n 1 8,
  0 1 0 8m 1 8 1yx4 1 3 8n 1 8,0 1 0 8m 1 8 20rv 1 3 8n 1 8,0 1 0 8m 1 8 1zxw 1 3 8n 1 8,
  0 1 0 8m 1 8 1yy0 1 3 8n 1 8,0 1 0 8m 1 8 27dd 1 3 8n 1 8,0 1 0 8m 1 8 1vrz 1 3 8n 1 8,
  0 1 0 8m 1 8 1yp1 1 3 8n 1 8,0 1 0 8m 1 8 1z56 1 3 8n 1 8,0 1 0 8m 1 8 1yx5 1 3 8n 1 8,
  0 1 0 8m 1 8 22im 1 3 8n 1 8,0 1 0 8m 1 8 1v65 1 3 8n 1 8,0 1 0 8m 1 8 216h 1 3 8n 1 8,
  0 1 0 8m 1 8 26ch 1 3 8n 1 8,0 1 0 8m 1 8 22jh 1 3 8n 1 8,0 1 0 8m 1 8 1uwk 1 3 8n 1 8,
  0 1 0 8m 1 8 1u5f 1 3 8n 1 8,0 1 0 8m 1 8 1v98 1 3 8n 1 8,0 1 0 8m 1 8 1wme 1 3 8n 1 8,
  0 1 0 8m 1 8 221v 1 3 8n 1 8,0 1 0 8m 1 8 1u69 1 3 8n 1 8,0 1 0 8m 1 8 26dj 1 3 8n 1 8,
  0 1 0 8m 1 8 1v10 1 3 8n 1 8,0 1 0 8m 1 8 22jx 1 3 8n 1 8,0 1 0 8m 1 8 1u6p 1 3 8n 1 8,
  0 1 0 8m 1 8 248a 1 3 8n 1 8,0 1 0 8m 1 8 248j 1 3 8n 1 8,0 1 0 1vf3 1 c,0 1 0 1x8c 1 c,
  0 1 0 1ymf 1 c,0 1 0 22z3 1 c,0 1 0 61v 1 f 61u 1 f,0 1 0 61w 1 f 61u 1 f,
  0 1 0 61x 1 f 61u 1 f,0 1 0 61y 1 f 61u 1 f,0 1 0 61z 1 f 61u 1 f,0 1 0 620 1 f 61u 1 f,
  0 1 0 621 1 f 61u 1 f,0 1 0 622 1 f 61u 1 f,0 1 0 68b 1 t 6ac 1 t 63h 1 t,
  0 1 0 61w 1 f 61v 1 f,0 1 0 61w 1 f 61w 1 f,0 1 0 61w 1 f 61x 1 f,0 1 0 61w 1 f 61y 1 f,
  0 1 0 61w 1 f 61z 1 f,0 1 0 61w 1 f 620 1 f,0 1 0 61w 1 f 621 1 f,0 1 0 61w 1 f 622 1 f,
  0 1 0 61w 1 f 623 1 h,0 1 0 61x 1 f 61u 1 f,0 1 0 61x 1 f 61v 1 f,0 1 0 61x 1 f 61w 1 f,
  0 1 0 61x 1 f 61x 1 f,0 1 0 61x 1 f 61y 1 f,0 1 0 61x 1 f 61z 1 f,0 1 0 c9d 1 e,
  0 2 1 c9f 1 e,0 3 1 c9i 1 e,0 1 0 c9m 1 e,0 2 1 c9o 1 e,0 5 1 c9r 1 e,0 1 0 c9d 1 e ccv 1 e,
  0 1 0 c9f 1 e ccv 1 e,0 1 0 c9g 1 e ccv 1 e,0 1 0 c9i 1 e ccv 1 e,0 1 0 c9j 1 e ccv 1 e,
  0 1 0 c9k 1 e ccv 1 e,0 1 0 c9m 1 e ccv 1 e,0 1 0 c9o 1 e ccv 1 e,0 1 0 c9p 1 e ccv 1 e,
  0 1 0 c9r 1 e ccv 1 e,0 1 0 c9s 1 e ccv 1 e,0 1 0 c9t 1 e ccv 1 e,0 1 0 c9u 1 e ccv 1 e,
  0 1 0 c9v 1 e ccv 1 e,0 1 0 c9r 1 e ccv 1 e cfw 1 g c9d 1 e cd3 1 e,
  0 1 0 c9p 1 e cd8 1 e c9o 1 e cde 1 e,0 1 0 c9o 1 e cd8 1 e,0 1 0 5lf 1 2,0 1 0 1tz4 1 c,
  0 1 0 1u30 1 c,0 1 0 1tzd 1 c,0 1 0 1vq3 1 c,0 1 0 1u38 1 c,0 1 0 1unh 1 c,0 1 0 1tz7 1 c,
  0 1 0 1unf 1 c,0 1 0 1u1p 1 c,0 1 0 1v0h 1 c,0 1 0 1yx4 1 c,0 1 0 20rv 1 c,0 1 0 1zxw 1 c,
  0 1 0 1yy0 1 c,0 1 0 27dd 1 c,0 1 0 1vrz 1 c,0 1 0 1yp1 1 c,0 1 0 1z56 1 c,0 1 0 1yx5 1 c,
  0 1 0 22im 1 c,0 1 0 1v65 1 c,0 1 0 216h 1 c,0 1 0 26ch 1 c,0 1 0 22jh 1 c,0 1 0 1uwk 1 c,
  0 1 0 22mw 1 c,0 1 0 21pz 1 c,0 1 0 1w8j 1 c,0 1 0 273d 1 c,0 1 0 1ulm 1 c,0 1 0 1v1s 1 c,
  0 1 0 202w 1 c,0 1 0 28lh 1 c,0 1 0 1u6p 1 c,0 1 0 1uop 1 c,0 1 0 1zs3 1 c,0 1 0 1tze 1 c,
  0 1 0 1u0d 1 c,0 1 0 1tzf 1 c,0 1 0 1x46 1 c,0 1 0 1v5f 1 c,0 1 0 1v0b 1 c,0 1 0 1wnr 1 c,
  0 1 0 1wme 1 c,0 1 0 221v 1 c,0 1 0 1u69 1 c,0 1 0 26dj 1 c,0 1 0 1v10 1 c,0 1 0 1w64 1 c,
  0 1 0 61x 1 f 620 1 f,0 1 0 61x 1 f 621 1 f,0 1 0 61x 1 f 622 1 f,0 1 0 61x 1 f 623 1 h,
  0 1 0 61y 1 f 61u 1 f,0 1 0 61y 1 f 61v 1 f,0 1 0 61y 1 f 61w 1 f,0 1 0 61y 1 f 61x 1 f,
  0 1 0 61y 1 f 61y 1 f,0 1 0 61y 1 f 61z 1 f,0 1 0 61y 1 f 620 1 f,0 1 0 61y 1 f 621 1 f,
  0 1 0 61y 1 f 622 1 f,0 1 0 61y 1 f 623 1 h,0 1 0 61z 1 f 61u 1 f,0 1 0 61v 1 6 1yx4 1 3,
  0 1 0 61w 1 6 1yx4 1 3,0 1 0 61x 1 6 1yx4 1 3,0 1 0 61y 1 6 1yx4 1 3,0 1 0 61z 1 6 1yx4 1 3,
  0 1 0 620 1 6 1yx4 1 3,0 1 0 621 1 6 1yx4 1 3,0 1 0 622 1 6 1yx4 1 3,0 1 0 623 1 7 1yx4 1 3,
  0 1 0 61v 1 6 61u 1 6 1yx4 1 3,0 1 0 61v 1 6 61v 1 6 1yx4 1 3,0 1 0 61v 1 6 61w 1 6 1yx4 1 3,
  0 1 0 64s 1 t 64d 1 p,0 1 0 63h 1 r 68u 1 r 64d 1 p,0 1 0 63h 1 r 6be 1 t,
  0 1 0 65z 1 t 6ac 1 t 633 1 r,0 3 1 cja 1 o,0 2 1 cje 1 o,0 1 0 cjg 1 l,0 1 0 cjh 1 k,
  0 2 1 cji 1 l,0 1 0 cjk 1 j,0 1 0 cjl 1 k,0 2 1 cjm 1 l,0 4 1 cjo 1 k,0 1 0 cjs 1 o,
  0 1 0 cjt 1 k,0 1 0 cju 1 j,0 2 1 cjv 1 k,0 1 0 cjx 1 r,0 2 1 cjy 1 k,0 5 1 ck0 1 l,
  0 2 1 ck5 1 k,0 1 0 ck7 1 l,0 1 0 ck8 1 k,0 2 1 ck9 1 o,0 1 0 ckc 1 o,0 2 1 cke 1 l,
  0 1 0 ckg 1 j,0 4 1 ckh 1 l,0 1 0 ckl 1 o,0 1 0 ckn 1 o,0 1 0 cko 1 r,
  0 1 0 1u5g 1 r 1v9o 1 r,0 1 0 cja 1 s ck0 1 q 0 11 p 5m7 1 p cju 1 s,
  0 1 0 cja 1 s ckh 1 q ck2 1 q cja 1 s,0 1 0 cja 1 s ckp 1 r ck3 1 q 0 11 p cja 1 s,
  0 1 0 cja 1 s 5m7 1 p ckh 1 q,0 1 0 cjb 1 s cjw 1 r ckp 1 r cji 1 q 0 10 p,
  0 1 0 cjb 1 s ckp 1 r cjr 1 r,0 1 0 cjc 1 s cjf 1 s ckp 1 r,
  0 1 0 cje 1 s cjn 1 q cji 1 q 5m7 1 p cju 1 s 0 10 p,0 1 0 cje 1 s 5m7 1 p cjg 1 q 5m7 1 p,
  0 1 0 cjf 1 s ckp 1 r cjn 1 q,0 1 0 cjf 1 s 5m7 1 p ck7 1 q,0 1 0 cjg 1 q cjb 1 s ckg 1 s,
  0 1 0 cjg 1 q ckf 1 q cjs 1 s cju 1 s,0 1 0 cjg 1 q ckj 1 q ckg 1 s 5m7 1 p,
  0 1 0 cjg 1 q 0 10 p ckj 1 q ckp 1 r,0 1 0 cjg 1 q 0 10 p ckp 1 r ck5 1 r,
  0 1 0 cjh 1 r 0 10 p cjg 1 q 0 10 p,0 1 0 cjh 1 r 0 10 p cjw 1 r 5m7 1 p,
  0 1 0 cjh 1 r ckc 1 s ckg 1 s 5m7 1 p,0 1 0 cjh 1 r 0 10 p ckh 1 q cjq 1 r 0 10 p 5m7 1 p,
  0 1 0 cjh 1 r ckj 1 q,0 1 0 cjh 1 r ckj 1 q cji 1 q 0 10 p ckf 1 q ck7 1 q,
  0 1 0 cjh 1 r ckj 1 q ck8 1 r 5m7 1 p cju 1 s ckh 1 q,
  0 1 0 cjh 1 r ckj 1 q ckk 1 q cjs 1 s cju 1 s,0 1 0 cji 1 q 0 10 p ckf 1 q ck7 1 q,
  0 1 0 cji 1 q 0 10 p ckf 1 q ck7 1 q cju 1 s ckp 1 r,
  0 1 0 cji 1 q ckh 1 q cjo 1 r 0 10 p cjb 1 s ckj 1 q,0 1 0 cji 1 q ckj 1 q 5m7 1 p cjy 1 r,
  0 1 0 cjj 1 q 5m7 1 p cjn 1 q,0 1 0 cjk 1 s ckh 1 q cjv 1 r,
  0 1 0 cjk 1 s 5m7 1 p ck4 1 q 0 11 p,0 1 0 cjl 1 r cjb 1 s cji 1 q ckh 1 q,
  0 1 0 cjl 1 r ckp 1 r cjr 1 r 5m7 1 p ck7 1 q,0 1 0 cjm 1 q ckg 1 s ckp 1 r cji 1 q 0 10 p,
  0 1 0 cjo 1 r ckp 1 r cjr 1 r,0 1 0 cjo 1 r ckp 1 r cju 1 s,
  0 1 0 cjq 1 r 0 10 p 5m7 1 p cjn 1 q,0 1 0 cjt 1 r 0 10 p cjm 1 q,
  0 1 0 cju 1 s 0 10 p ckh 1 q,0 1 0 cju 1 s ckp 1 r,0 1 0 cjv 1 r cjz 1 r,
  0 1 0 cjz 1 r cjs 1 s cju 1 s,0 1 0 ck0 1 q cjb 1 s cjs 1 s,
  0 1 0 ck0 1 q 0 11 p 5m7 1 p cjo 1 r ckp 1 r cju 1 s,0 1 0 ck0 1 q 0 11 p 5m7 1 p cjs 1 s,
  0 1 0 ck0 1 q 0 10 p 5m7 1 p cki 1 q ckh 1 q,
  0 1 0 ck1 1 q 0 11 p cja 1 s cjn 1 q cju 1 s ckh 1 q,0 1 0 ck1 1 q 0 11 p cji 1 q ckh 1 q,
  0 1 0 ck1 1 q 0 11 p cjk 1 s,0 1 0 ck1 1 q 0 10 p ckh 1 q,
  0 1 0 ck2 1 q cja 1 s ckf 1 q cjs 1 s cju 1 s 0 10 p,0 1 0 ck2 1 q cjb 1 s 5m7 1 p cju 1 s,
  0 1 0 ck2 1 q 0 10 p cjs 1 s cjm 1 q cje 1 s ckh 1 q,0 1 0 ck2 1 q ckf 1 q ckp 1 r,
  0 1 0 ck3 1 q cji 1 q cjq 1 r 5m7 1 p ckh 1 q,0 1 0 ck3 1 q 0 11 p cjp 1 r,
  0 1 0 ck3 1 q 0 11 p cjw 1 r ck1 1 q,0 1 0 ck3 1 q ckh 1 q cjs 1 s,
  0 1 0 ck3 1 q 0 11 p ckp 1 r cjn 1 q,0 1 0 ck3 1 q 0 11 p 5m7 1 p cjm 1 q 0 10 p,
  0 1 0 ck3 1 q 0 10 p 5m7 1 p cjq 1 r,0 1 0 ck4 1 q 0 11 p cjb 1 s ckp 1 r cju 1 s,
  0 1 0 ck4 1 q 0 10 p ckh 1 q cju 1 s,0 1 0 ck4 1 q ckp 1 r,
  0 1 0 ck4 1 q 0 11 p ckp 1 r cju 1 s 0 10 p,0 1 0 ck4 1 q 5m7 1 p ckh 1 q,
  0 1 0 ck4 1 q 5m7 1 p ckp 1 r,0 1 0 ck5 1 r cjb 1 s cji 1 q ckj 1 q,
  0 1 0 ck5 1 r cjb 1 s ckh 1 q,0 1 0 ck5 1 r cjs 1 s ck0 1 q,0 1 0 ck5 1 r ckh 1 q cji 1 q,
  0 1 0 ck5 1 r ckp 1 r cjm 1 q cke 1 t ckp 1 r,0 1 0 ck6 1 r cji 1 q ckj 1 q ckp 1 r,
  0 1 0 ck6 1 r ckg 1 s,0 1 0 ck6 1 r ckg 1 s ck0 1 q 0 10 p 5m7 1 p ckh 1 q,
  0 1 0 ck8 1 r cjg 1 q 0 10 p,0 1 0 ck8 1 r cjg 1 q 0 10 p cju 1 s ckp 1 r,
  0 1 0 ck8 1 r 5m7 1 p cju 1 s ckh 1 q,0 1 0 cka 1 s 5m7 1 p cju 1 s 0 10 p,
  0 1 0 cka 1 s 5m7 1 p ckh 1 q,0 1 0 ckc 1 s cja 1 s ckp 1 r,
  0 1 0 ckg 1 s cjs 1 s cju 1 s ckh 1 q,0 1 0 ckg 1 s ckf 1 q,
  0 1 0 ckh 1 q ck1 1 q 0 11 p 5m7 1 p,0 1 0 ckh 1 q 5m7 1 p ck2 1 q 0 10 p ckh 1 q,
  0 1 0 cki 1 q ck7 1 q,0 1 0 cki 1 q ckp 1 r cju 1 s cjj 1 q 0 10 p ckp 1 r,
  0 1 0 ckk 1 q cjs 1 s cju 1 s,0 1 0 61u 1 6 20u1 1 3,0 1 0 61v 1 6 20u1 1 3,
  0 1 0 61w 1 6 20u1 1 3,0 1 0 61x 1 6 20u1 1 3,0 1 0 61y 1 6 20u1 1 3,0 1 0 61z 1 6 20u1 1 3,
  0 1 0 620 1 6 20u1 1 3,0 1 0 621 1 6 20u1 1 3,0 1 0 622 1 6 20u1 1 3,0 1 0 623 1 7 20u1 1 3,
  0 1 0 61v 1 6 61u 1 6 20u1 1 3,0 1 0 61v 1 6 61v 1 6 20u1 1 3,0 1 0 61v 1 6 61w 1 6 20u1 1 3,
  0 1 0 61v 1 6 61x 1 6 20u1 1 3,0 1 0 61v 1 6 61y 1 6 20u1 1 3,0 1 0 61v 1 6 61z 1 6 20u1 1 3,
  0 1 0 61v 1 6 620 1 6 20u1 1 3,0 1 0 61v 1 6 621 1 6 20u1 1 3,0 1 0 61v 1 6 622 1 6 20u1 1 3,
  0 1 0 61v 1 6 623 1 7 20u1 1 3,0 1 0 61w 1 6 61u 1 6 20u1 1 3,0 1 0 61w 1 6 61v 1 6 20u1 1 3,
  0 1 0 61w 1 6 61w 1 6 20u1 1 3,0 1 0 61w 1 6 61x 1 6 20u1 1 3,0 1 0 61w 1 6 61y 1 6 20u1 1 3,
  0 1 0 64s 1 r 68b 1 t 624 1 r,0 1 0 633 1 p 624 1 r,0 1 0 624 1 t 6aq 1 r,
  0 1 0 62i 1 p 624 1 r 68u 1 r,0 1 0 67h 1 r 6be 1 t,0 1 0 68b 1 r 62t 1 p,
  0 1 0 633 1 p 66q 1 r,0 1 0 633 1 p 66q 1 r 61w 1 p,0 1 0 633 1 p 66q 1 r 61x 1 p,
  0 1 0 654 1 t 6aq 1 r,0 1 0 1x83 1 r 1xxs 1 r,0 1 0 1yr1 1 r 1v9o 1 r,
  0 1 0 1w6f 1 r 1zs3 1 r,0 1 0 1yq6 1 r 201n 1 r,0 1 0 1z56 1 r 1xcf 1 r 1u6y 1 r 22im 1 r,
  0 1 0 68b 1 r 624 1 t,0 1 0 66z 1 r 624 1 t,0 1 0 6el 1 q 624 1 t,0 1 0 66q 1 r 624 1 t,
  0 1 0 65o 1 r 624 1 t,0 1 0 65o 1 t 62i 1 r,0 1 0 66q 1 t 62i 1 r,0 1 0 64d 1 r 62i 1 r,
  0 1 0 62t 1 p 624 1 r 65z 1 r,0 1 0 65o 1 r 62t 1 p 624 1 r 65z 1 r,0 1 0 68b 1 r 644 1 r,
  0 1 0 66z 1 r 644 1 r,0 1 0 6el 1 q 644 1 r,0 1 0 6el 1 q 64d 1 p,0 1 0 66q 1 r 64d 1 p,
  0 1 0 65o 1 r 64d 1 p,0 1 0 64s 1 t 6c7 1 p,0 1 0 65o 1 r 64s 1 t 6c7 1 p,
  0 1 0 66q 1 t 64s 1 t 6c7 1 p,0 1 0 64d 1 r 64s 1 t 6c7 1 p,0 1 0 6ac 1 t 64s 1 t 6c7 1 p,
  0 1 0 6el 1 q 65z 1 r,0 1 0 66q 1 r 65z 1 r,0 1 0 633 1 p 65z 1 r,0 1 0 65o 1 r 65z 1 r,
  0 1 0 644 1 p 66q 1 r,0 1 0 66z 1 r 66q 1 r,0 1 0 6el 1 q 66q 1 r,0 1 0 66q 1 r 66q 1 r,
  0 1 0 62t 1 p 66q 1 r,0 1 0 65o 1 r 66q 1 r,0 1 0 66q 1 r 66q 1 r 61w 1 p,
  0 1 0 62t 1 p 66q 1 r 61w 1 p,0 1 0 66q 1 r 61w 1 p,0 1 0 65o 1 r 66q 1 r 61w 1 p,
  0 1 0 66q 1 r 66q 1 r 61x 1 p,0 1 0 62t 1 p 66q 1 r 61x 1 p,0 1 0 66q 1 r 61x 1 p,
  0 1 0 65o 1 r 66q 1 r 61x 1 p,0 1 0 66q 1 r xj 1 g 69r 1 r,
  0 1 0 66q 1 r xj 1 g 69r 1 r 61w 1 p,0 1 0 68b 1 t 624 1 r,0 1 0 65o 1 r 68b 1 t 624 1 r,
  0 1 0 66q 1 t 68b 1 t 624 1 r,0 1 0 64d 1 r 68b 1 t 624 1 r,0 1 0 68u 1 r 624 1 r 633 1 p,
  0 1 0 68u 1 r 624 1 r 633 1 p xj 1 g 69r 1 r,
  0 1 0 68u 1 r 624 1 r 633 1 p xj 1 g 69r 1 r 61w 1 p,0 1 0 68b 1 r 69r 1 r,
  0 1 0 66z 1 r 69r 1 r,0 1 0 6el 1 q 69r 1 r,0 1 0 66q 1 r 69r 1 r,0 1 0 68b 1 r 6be 1 t,
  0 1 0 66z 1 r 6be 1 t,0 1 0 6el 1 q 6be 1 t,0 1 0 66q 1 r 6be 1 t,0 1 0 65o 1 r 6be 1 t,
  0 1 0 66q 1 t 6be 1 t,0 1 0 68b 1 r 6bn 1 u,0 1 0 66z 1 r 6bn 1 u,0 1 0 6el 1 q 6bn 1 u,
  0 1 0 66q 1 r 6bn 1 u,0 1 0 65o 1 r 6bn 1 u,0 1 0 66q 1 t 6bn 1 u,0 1 0 65o 1 r 6f7 1 r,
  0 1 0 66q 1 t 6f7 1 r,0 1 0 624 1 r 3m 1 q 66q 1 r 3m 1 q,0 1 0 62i 1 r 68n 1 p,
  0 1 0 62t 1 p 62t 1 p,0 1 0 62t 1 p 633 1 p,0 1 0 62t 1 r xj 1 g 65o 1 r 64d 1 p,
  0 1 0 62t 1 r 67h 1 r 3m 1 q,0 1 0 633 1 p 62i 1 r,0 1 0 64d 1 r 6c0 1 p,
  0 1 0 64s 1 r 624 1 r,0 1 0 64s 1 t 68b 1 t,0 1 0 654 1 r 66z 1 r,0 1 0 65o 1 t 65o 1 t,
  0 1 0 65o 1 t 66q 1 t,0 1 0 65o 1 r 6ac 1 r,0 1 0 65z 1 r 66q 1 r,0 1 0 65z 1 r 66z 1 r,
  0 1 0 65z 1 r 67h 1 r 64d 1 p,0 1 0 65z 1 r 6br 1 r,0 1 0 66q 1 r 62i 1 p,
  0 1 0 66q 1 r 654 1 r 65z 1 r,0 1 0 66q 1 r 67h 1 r 65z 1 r,0 1 0 68b 1 t 64s 1 t,
  0 1 0 68b 1 r 3m 1 q 66q 1 r 3m 1 q,0 1 0 68b 1 t 68b 1 t 66q 1 t,0 1 0 68b 1 t 68u 1 t,
  0 1 0 69r 1 r 68u 1 r,0 1 0 69r 1 t 6be 1 r,0 1 0 6bn 1 u 62i 1 p,
  0 1 0 6be 1 t xj 1 g 66q 1 r,0 1 0 624 1 t xj 1 g 66q 1 r,0 1 0 61v 1 6 1yp1 1 3,
  0 1 0 61w 1 6 1yp1 1 3,0 1 0 61x 1 6 1yp1 1 3,0 1 0 61y 1 6 1yp1 1 3,0 1 0 61z 1 6 1yp1 1 3,
  0 1 0 620 1 6 1yp1 1 3,0 1 0 621 1 6 1yp1 1 3,0 1 0 622 1 6 1yp1 1 3,0 1 0 623 1 7 1yp1 1 3,
  0 1 0 61v 1 6 61u 1 6 1yp1 1 3,0 1 0 61v 1 6 61v 1 6 1yp1 1 3,0 1 0 61v 1 6 61w 1 6 1yp1 1 3,
  0 1 0 61v 1 6 61x 1 6 1yp1 1 3,0 1 0 61v 1 6 61y 1 6 1yp1 1 3,0 1 0 61v 1 6 61z 1 6 1yp1 1 3,
  0 1 0 61v 1 6 620 1 6 1yp1 1 3,0 1 0 61v 1 6 621 1 6 1yp1 1 3,0 1 0 61v 1 6 622 1 6 1yp1 1 3,
  0 1 0 61v 1 6 623 1 7 1yp1 1 3,0 1 0 61w 1 6 61u 1 6 1yp1 1 3,0 1 0 61w 1 6 61v 1 6 1yp1 1 3,
  0 1 0 61w 1 6 61w 1 6 1yp1 1 3,0 1 0 61w 1 6 61x 1 6 1yp1 1 3,0 1 0 61w 1 6 61y 1 6 1yp1 1 3,
  0 1 0 61w 1 6 61z 1 6 1yp1 1 3,0 1 0 61w 1 6 620 1 6 1yp1 1 3,0 1 0 61w 1 6 621 1 6 1yp1 1 3,
  0 1 0 61w 1 6 622 1 6 1yp1 1 3,0 1 0 61w 1 6 623 1 7 1yp1 1 3,0 1 0 61x 1 6 61u 1 6 1yp1 1 3,
  0 1 0 61x 1 6 61v 1 6 1yp1 1 3,0 1 0 64d 1 p 624 1 r 65z 1 r,534 1s 1 2t4 1 2,
  g74 wd 1 cu8 1 2,3 1j 1 2xb 1 2,9 q 1 dqr 1 2,0 1 0 drj 1 2,0 1 0 drh 1 2,0 1 0 drk 1 2,
  0 1 0 dri 1 2,0 a 1 drm 1 2,0 4 1 dql 1 2,0 1 0 dqq 1 2,0 1 0 dqp 1 2,0 1 0 1g 1 2,
  0 1 0 40 1 2,0 7h 1 bbp 1 2,0 1 0 1h 1 2,0 1 0 41 1 2,0 1 0 3f 1 2,0 1 0 be5 1 g,
  0 1 0 ben 1 g,0 1 0 bfg 1 g,0 1 0 bc1 1 g bj4 1 g,0 1 0 bcj 1 g bj4 1 g,
  0 1 0 bd4 1 g bj4 1 g,0 1 0 bdo 1 g bj5 1 g,0 1 0 bdz 1 g bj4 1 g,0 1 0 be5 1 g bj5 1 g,
  0 1 0 be7 1 g bj5 1 g,0 1 0 bed 1 g bj4 1 g,0 1 0 bfe 1 g bj4 1 g,0 1 0 bgp 1 g bj4 1 g,
  0 1 0 bhc 1 g bj4 1 g,0 1 0 bhi 1 g bj5 1 g,0 1 0 bhp 1 g bj4 1 g,0 a 1 61u 1 2,
  0 1 0 ber 1 g,0 1 0 bhi 1 g,k 1 0 6ho 1 g,0 1 0 6ho 1 2,0 1 0 6hr 1 g,0 1 0 6hr 1 2,
  0 1 0 6ht 1 g,0 1 0 6ht 1 2,0 1 0 6i1 1 g,0 1 0 6i1 1 2,0 1 0 6i4 1 p,0 1 0 6i4 1 2,
  0 1 0 6jk 1 p,0 1 0 6jk 1 2,0 1 0 6jw 1 g,0 1 0 6jw 1 2,0 1 0 6kh 1 g,0 1 0 6kh 1 2,
  0 1 0 6kl 1 g,0 1 0 6kl 1 2,0 1 0 6kq 1 g,0 1 0 6kq 1 2,0 1 0 6kt 1 g,0 1 0 6kt 1 2,
  0 1 0 6ku 1 p,0 1 0 6ku 1 2,0 1 0 6kz 1 g,0 1 0 6kz 1 2,0 1 0 6l1 1 g,0 1 0 6l1 1 2,
  0 1 0 6l3 1 g,0 1 0 6l3 1 2,0 1 0 6l9 1 g,0 1 0 6l9 1 2,0 1 0 6k0 1 g,0 1 0 6k0 1 2,
  0 1 0 6he 1 g,0 1 0 6he 1 2,0 1 0 6ik 1 g,0 1 0 6ik 1 2,0 1 0 6ip 1 g,0 1 0 6ip 1 2,
  0 1 0 6iz 1 g,0 1 0 6iz 1 3,0 1 0 6iz 1 g,0 1 0 6iz 1 3,0 1 0 6iz 1 g,0 2 0 6iz 1 3,
  0 1 0 0 1q 2,0 3 0 0 0 0,0 1 0 cb 1 2,0 1 0 6hi 1 g,0 1 0 6hy 1 3,0 1 0 6i0 1 3 0 o g,
  0 1 0 6jh 1 3,0 1 0 6kk 1 3,0 2 1 6km 1 3,0 1 0 6ju 1 g,0 2 0 0 w 2,0 1 0 e1 1 2,
  0 1 0 6kj 1 2,0 1 0 6hc 1 g,0 1 0 6hc 1 2,0 1 0 6hx 1 g,0 1 0 6hx 1 2,0 1 0 6hl 1 g,
  0 1 0 6hl 1 2,0 1 0 6ka 1 g,0 1 0 6ka 1 2,0 1 0 6hv 1 g,0 1 0 6hv 1 2,0 1 0 6jf 1 g,
  0 1 0 6jf 1 2,0 1 0 6jc 1 g,0 1 0 6jc 1 2,0 1 0 6k1 1 g,0 1 0 6k1 1 2,0 1 0 6k3 1 g,
  0 1 0 6k3 1 2,0 1 0 6k6 1 g,0 1 0 6k6 1 2,0 1 0 6jt 1 g,0 1 0 6jt 1 2,0 1 0 6kf 1 g,
  0 1 0 6kf 1 2,0 1 0 6iz 1 g,0 1 0 6iz 1 3,0 1 0 6iz 1 g,0 1 0 6iz 1 3,0 1 0 6kk 1 k,
  0 1 0 6kn 1 o,0 1 0 6jm 1 3,0 1 0 6kx 1 g,0 28 1 bj6 1 2,0 1 0 0 4j 2,0 1 0 0 4k 2,
  0 1 0 6h 1 2,0 1 0 42 1 2,0 1 0 2w 1 2,0 1 0 1i 1 2,0 1 0 1s 1 2,0 1 0 3g 1 2,8 y 1 mc 1 2,
  0 1 0 6dg 1 g,0 1 0 6dg 1 2,0 1 0 6do 1 g,0 1 0 6do 1 2,0 1 0 650 1 g,0 1 0 650 1 2,
  0 1 0 6ac 1 h 6c7 1 4,0 1 0 6ac 1 4 6c7 1 4,0 1 0 6d4 1 g,0 1 0 6d4 1 2,0 1 0 6d5 1 g,
  0 1 0 6d5 1 2,0 1 0 6d6 1 g,0 1 0 6d6 1 2,0 1 0 645 1 2,0 1 0 69s 1 2,0 1 0 624 1 h 624 1 h,
  0 1 0 624 1 4 624 1 4,0 1 0 624 1 h 67h 1 h,0 1 0 624 1 4 67h 1 4,0 1 0 624 1 h 6aq 1 h,
  0 1 0 624 1 4 6aq 1 4,0 1 0 624 1 h 6be 1 h,0 1 0 624 1 4 6be 1 4,0 1 0 624 2 g 6be 1 h,
  0 1 0 624 2 2 6be 1 4,0 1 0 624 1 h 6c0 1 h,0 1 0 624 1 4 6c0 1 4,0 1 0 632 1 g,
  0 1 0 632 1 2,0 1 0 65t 1 g,0 1 0 65t 1 2,0 1 0 65u 1 g,0 1 0 65u 1 2,0 1 0 65v 1 g,
  0 1 0 65v 1 2,0 1 0 661 1 g,0 1 0 661 1 2,0 1 0 663 1 g,0 1 0 663 1 2,0 1 0 686 1 g,
  0 1 0 686 1 2,0 1 0 681 1 g,0 1 0 681 1 2,0 1 0 67h 1 h 67h 1 h,0 1 0 67h 1 4 67h 1 4,
  0 1 0 68e 1 g,0 1 0 68e 1 2,0 1 0 68i 1 g,0 1 0 68i 1 2,0 1 0 68j 1 g,0 1 0 68j 1 2,
  0 1 0 68p 1 g,0 1 0 68p 1 2,0 1 0 68q 1 g,0 1 0 68q 1 2,0 1 0 68u 8 g,0 1 0 68u 8 2,
  0 1 0 69q 1 g,0 1 0 69q 1 2,0 1 0 6bg 1 g,0 1 0 6bg 1 2,0 1 0 6be 1 h 6c0 1 h,
  0 1 0 6be 1 4 6c0 1 4,0 1 0 6ch 1 g,0 1 0 6ch 1 2,0 1 0 6cr 1 g,0 1 0 6cr 1 2,0 1 0 6cs 1 g,
  0 1 0 6cs 1 2,0 1 0 6cv 1 g,0 1 0 6cv 1 2,0 1 0 6cz 1 g,0 1 0 6cz 1 2,0 1 0 6d0 1 g,
  0 1 0 6d0 1 2,0 1 0 6d1 1 e,0 1 0 6d1 1 2,0 1 0 6d1 1 o,0 1 0 63f 1 2,0 1 0 66j 1 2,
  0 1 0 66y 1 2,0 1 0 67c 1 2,0 2 1 69o 1 2,0 1 0 6an 1 2,0 1 0 6d2 1 2,0 1 0 633 8 g,
  0 1 0 633 8 2,0 1 0 644 2 g,0 1 0 644 2 2,0 1 0 64d 2 g,0 1 0 64p 1 g,0 1 0 64p 1 2,
  0 1 0 66m 1 g,0 1 0 66m 1 2,0 1 0 68u 2 g,0 1 0 68u 2 2,0 1 0 69r 8 g,0 1 0 69r 8 2,
  0 1 0 6ac 8 g,0 1 0 6ac 8 2,0 3 1 na 1 2,0 1 0 6dh 1 g,0 1 0 6dh 1 2,0 1 0 6b5 1 g,
  0 1 0 66g 1 2,0 1 0 6di 1 2,0 1 0 676 1 g,0 1 0 676 1 2,0 1 0 62w 1 g,0 2 1 62w 1 2,
  0 1 0 64v 1 2,0 1 0 62o 1 g,0 1 0 62o 1 2,0 1 0 647 1 g,0 1 0 647 1 2,0 1 0 624 1 h 0 o g,
  0 1 0 624 1 4 0 o g,0 1 0 67h 1 h 0 o g,0 1 0 67h 1 4 0 o g,0 1 0 6aq 1 h 0 o g,
  0 1 0 6aq 1 4 0 o g,0 1 0 64d 1 h 0 y g,0 1 0 64d 1 4 0 y g,0 1 0 65o 1 h 0 y g,
  0 1 0 65o 1 4 0 y g,0 1 0 66z 1 h 0 y g,0 1 0 66z 1 4 0 y g,0 1 0 68u 1 h 0 y g,
  0 1 0 68u 1 4 0 y g,0 1 0 69r 1 h 0 y g,0 1 0 69r 1 4 0 y g,0 1 0 64w 1 g,0 1 0 63x 1 g,
  0 1 0 64f 1 g,0 1 0 669 1 g,0 1 0 656 1 g,0 1 0 68o 1 2,0 1 0 65x 1 g,0 1 0 6ao 1 g,
  0 1 0 65l 1 g,0 1 0 6bx 1 g,0 1 0 62s 1 p,0 1 0 62s 1 2,0 1 0 688 1 g,0 1 0 688 1 2,
  0 1 0 6b0 1 g,0 1 0 6b0 1 2,0 1 0 628 1 g,0 1 0 628 1 2,0 1 0 65e 1 g,0 1 0 65e 1 2,
  0 1 0 6b4 1 g,0 1 0 6b4 1 2,0 1 0 624 1 h 0 u g,0 1 0 624 1 4 0 u g,0 1 0 6bn 2 g,
  0 1 0 6bn 2 2,0 1 0 62x 1 g,0 1 0 69w 1 e,0 1 0 6cb 1 g,0 1 0 636 1 g,0 1 0 636 1 2,
  0 1 0 69t 1 g,0 1 0 69t 1 2,5 1 0 64e 1 g,0 1 0 64e 1 2,1 1 0 6cq 1 2,1 1 0 6cu 1 2,
  0 1 0 6a0 1 g,0 1 0 6a0 1 2,0 1 0 69r b g,0 1 0 69r b 2,o 1 0 62t 1 r,0 1 0 644 1 r,
  0 1 0 68n 1 r,0 1 0 64z 1 g,0 1 0 64z 1 2,0 1 0 658 1 2,0 1 0 64s 1 n 0 12 g,
  0 1 0 67h 2 p 63h 1 n,0 1 0 6b9 1 2,0 1 0 64c 1 2,0 1 0 68k 1 2,0 1 0 66w 1 2,0 1 0 657 1 2,
  0 1 0 66x 1 2,0 7 1 848 1 2,0 4 1 84g 1 2,0 1 0 0 4x 2,0 s 1 84k 1 2,0 4 1 q6 1 2,
  0 1 0 84f 1 2,3 6 1 5o5 1 2,0 2 1 qa 1 2,0 1 0 5mm 1 2,0 1 0 qc 1 2,6 8 1 9kd 1 2,
  0 c 1 9kp 1 2,0 4 1 9l2 1 2,0 1 0 9l8 1 2,0 2 1 9lb 1 2,0 2 1 9le 1 2,0 1 0 9li 1 2,
  0 4 1 9ln 1 2,0 4 1 9lj 1 2,0 1 0 9lr 1 2,0 1 0 9l1 1 2,0 1 0 9l6 1 2,0 4 1 9kl 1 2,
  0 1 0 9l7 1 2,0 1 0 9ld 1 2,0 2 1 9lg 1 2,0 2 1 9l9 1 2,0 1 0 9ls 1 2,0 2 1 he 1 2,
  0 2 1 4g 1 2,8 1 0 0 4x 2,0 1 0 0 4y 2,0 1v 1 85c 1 2,0 1 0 0 4w 2,8 2 1 4c 1 2,
  0 a 1 61u 1 2,6 i 0 0 0 0,0 1 0 7kt 1 2,0 5 0 7kt 1 g,0 3 1 et 1 2,0 1 0 7ku 1 2,
  0 1 0 ew 1 2,0 1 0 7is 1 2,0 1 0 7je 1 2,0 1 0 7lf 1 2,0 a 1 61u 1 2,0 x 1 9sr 1 2,
  0 1 0 0 5u 2,0 1 0 0 5v 2,0 1 0 0 5w 2,0 1 0 hk 1 2,0 1 0 4k 1 2,0 10 1 9rr 1 2,b 1 0 6i 1 2,
  0 t 1 cc0 1 2,3 1 0 0 4w 2,0 1 0 0 4x 2,0 1 0 0 53 2,0 1 0 0 4y 2,0 13 1 abw 1 2,
  0 1 0 ad0 1 2,0 1 0 ad0 1 g,0 6 1 ad2 1 2,0 1 0 0 4v 2,0 1 0 ad8 1 2,0 1 0 ad8 1 g,
  0 4 1 ada 1 2,0 2 1 adf 1 2,0 1 0 ad9 1 2,0 1 0 ade 1 2,0 1 0 acz 1 2,0 1 0 ad1 1 2,
  0 1 0 adh 1 2,0 6 1 67 1 2,0 1 0 2s 1 2,0 2 1 4v 1 2,0 4 1 6d 1 2,1 1 0 5lo 1 2,
  0 a 1 61u 1 2,4 2 1 hl 1 2,0 1 0 9tx 1 2,0 1 0 9u5 1 2,0 1 0 9uf 1 2,0 1 0 9v1 1 2,
  0 1 0 9vq 1 2,0 1 0 9xt 1 2,0 1 0 5lp 1 2,0 1 0 9un 1 2,0 1 0 9vl 1 2,0 1 0 9tv 1 2,
  0 1 0 9ty 1 2,0 1 0 9ua 1 2,0 1 0 9uh 1 2,0 1 0 9uv 1 2,0 1 0 9uy 1 2,0 1 0 9v2 1 2,
  0 a 1 61u 1 2,0 1 0 9wi 1 2,0 1 0 9v7 1 2,0 1 0 9va 1 2,0 1 0 9vo 1 2,0 1 0 9vr 1 2,
  1 15 1 a81 1 2,0 a 1 a9a 1 2,0 4 1 a96 1 2,9 e 1 a9k 1 2,2 a 1 61u 1 2,2 1 0 hn 1 2,
  0 3 1 4x 1 2,0 1 0 9tu 1 2,0 1 0 9u3 1 2,0 1 0 9u6 1 2,0 1 0 9u9 1 2,0 1 0 9ug 1 2,
  0 1 0 9um 1 2,0 1 0 9uq 1 2,0 1 0 9us 1 2,0 1 0 9uu 1 2,0 1 0 9ux 1 2,0 1 0 9v9 1 2,
  0 1 0 9vd 1 2,0 1 0 9wa 1 2,0 1 0 9wd 1 2,0 1 0 9wf 1 2,0 1 0 9vj 1 2,0 1 0 5lq 1 2,
  0 1 0 9wg 1 2,0 1 0 9uc 1 2,0 1 0 9vx 1 2,0 3 1 9yg 1 2,0 3 1 rh 1 2,0 1 0 9vy 1 2,
  0 3 1 9yd 1 2,0 1 0 9u7 1 2,0 1 0 9uj 1 2,0 1r 1 99f 1 2,0 1 0 0 5r 2,0 1 0 9b6 1 2,
  0 1 0 0 5s 2,0 1 0 9b7 1 2,o 2 1 9b8 1 2,0 1 0 5lr 1 2,0 2 1 fg 1 2,0 b 1 839 1 2,
  0 5 1 83s 1 2,0 1 0 50 1 2,0 1 0 3h 1 2,0 1 0 82h 1 2,0 2 1 5ls 1 2,0 1 0 83x 1 2,
  0 1 0 847 1 2,a 6 1 778 1 2,2 6 1 7d3 1 2,2 6 1 7c8 1 2,9 7 1 7f1 1 2,1 7 1 7fp 1 2,
  1 1 0 62e 1 2,0 1 0 62b 1 2,0 2 1 63j 1 2,0 1 0 63n 1 2,0 1 0 646 1 2,0 1 0 64h 1 2,
  0 1 0 66c 1 2,0 2 1 667 1 2,0 1 0 66v 1 2,0 1 0 67b 1 2,0 1 0 67e 1 2,0 1 0 67k 1 2,
  0 1 0 67t 1 2,0 1 0 67y 1 2,0 1 0 67p 1 2,0 2 1 67n 1 2,0 2 1 67q 1 2,0 1 0 68v 1 2,
  0 1 0 68x 1 2,0 2 1 69g 1 2,0 1 0 69b 1 2,0 3 1 69i 1 2,0 1 0 6a4 1 2,0 1 0 6as 1 2,
  0 1 0 6az 1 2,0 2 1 6aw 1 2,0 1 0 6b3 1 2,0 3 1 6bx 1 2,0 4 1 6bt 1 2,0 1 0 6c5 1 2,
  0 1 0 nd 1 2,0 1 0 650 1 p,0 1 0 66c 1 g,0 1 0 666 1 p,0 1 0 6b3 1 g,0 2 1 6cw 1 2,
  0 1 0 680 1 2,0 1 0 6cy 1 2,0 1 0 62h 1 2,0 1 0 6f8 1 2,0 1 0 633 1 4 6cd 1 g,
  0 1 0 6ac 1 4 69w 1 3,0 1 0 69m 1 2,0 1 0 6bq 1 p,0 2 1 l6 1 2,4 28 1 aju 1 2,0 r 1 82i 1 2,
  0 8 1 83y 1 2,0 8 1 83k 1 2,0 1 0 51 1 2,0 1 0 0 55 2,0 1 0 846 1 2,2 a 1 61u 1 2,
  8mu n 1 ceu 1 2,4 1d 1 chx 1 2,6x0 1 0 644 1 4 644 1 4,0 1 0 644 1 4 654 1 4,
  0 1 0 644 1 4 65z 1 4,0 1 0 644 1 4 644 1 4 654 1 4,0 1 0 644 1 4 644 1 4 65z 1 4,
  0 1 0 69r 5 2 6ac 1 4,0 1 0 69r 1 4 6ac 1 4,c 1 0 6qp 1 g 6qs 1 g,0 1 0 6qp 1 g 6qa 1 g,
  0 1 0 6qp 1 g 6qg 1 g,0 1 0 6r0 1 g 6qs 1 g,0 1 0 6qp 1 g 6qi 1 g,6 1 0 0 26 2,1 1 0 6rp 1 g,
  0 1 0 6ra 1 p,0 2 1 6rd 1 p,0 1 0 6rk 1 g,0 1 0 6rl 1 p,0 1 0 6rm 1 g,0 1 0 6rt 1 g,
  0 1 0 6rv 1 g,0 1 0 x4 1 9,11 1 0 6ra 1 g 6rl 1 g,0 1 0 6tc 1 p,0 1 0 6tc 1 g,0 1 0 6tp 1 r,
  0 1 0 6tp 1 k,0 1 0 6tp 1 3,0 1 0 6tp 1 c,0 1 0 6tq 1 r,0 1 0 6tq 1 k,0 1 0 6tq 1 3,
  0 1 0 6tq 1 c,0 1 0 6tr 1 r,0 1 0 6tr 1 k,0 1 0 6tr 1 3,0 1 0 6tr 1 c,0 1 0 6u8 1 r,
  0 1 0 6u8 1 k,0 1 0 6u8 1 3,0 1 0 6u8 1 c,0 1 0 6ub 1 r,0 1 0 6ub 1 k,0 1 0 6ub 1 3,
  0 1 0 6ub 1 c,0 1 0 6u7 1 r,0 1 0 6u7 1 k,0 1 0 6u7 1 3,0 1 0 6u7 1 c,0 1 0 6x0 1 r,
  0 1 0 6x0 1 k,0 1 0 6x0 1 3,0 1 0 6x0 1 c,0 1 0 6x3 1 r,0 1 0 6x3 1 k,0 1 0 6x3 1 3,
  0 1 0 6x3 1 c,0 1 0 6uh 1 r,0 1 0 6uh 1 k,0 1 0 6uh 1 3,0 1 0 6uh 1 c,0 1 0 6ug 1 r,
  0 1 0 6ug 1 k,0 1 0 6ug 1 3,0 1 0 6ug 1 c,0 1 0 6uj 1 r,0 1 0 6uj 1 k,0 1 0 6uj 1 3,
  0 1 0 6uj 1 c,0 1 0 6ul 1 r,0 1 0 6ul 1 k,0 1 0 6ul 1 3,0 1 0 6ul 1 c,0 1 0 6v8 1 p,
  0 1 0 6v8 1 g,0 1 0 6v7 1 p,0 1 0 6v7 1 g,0 1 0 6va 1 p,0 1 0 6va 1 g,0 1 0 6v3 1 p,
  0 1 0 6v3 1 g,0 1 0 6vp 1 p,0 1 0 6vp 1 g,0 1 0 6vi 1 p,0 1 0 6vi 1 g,0 1 0 6xf 1 r,
  0 1 0 6xf 1 k,0 1 0 6xf 1 3,0 1 0 6xf 1 c,0 1 0 6xn 1 r,0 1 0 6xn 1 k,0 1 0 6xn 1 3,
  0 1 0 6xn 1 c,0 1 0 6xt 1 r,0 1 0 6xt 1 k,0 1 0 6xt 1 3,0 1 0 6xt 1 c,0 1 0 6xr 1 r,
  0 1 0 6xr 1 k,0 1 0 6xr 1 3,0 1 0 6xr 1 c,0 1 0 6yf 1 o,0 1 0 6yf 1 e,0 1 0 6yh 1 r,
  0 1 0 6yh 1 k,0 1 0 6yh 1 3,0 1 0 6yh 1 c,0 1 0 6yu 1 p 0 34 p,0 1 0 6yu 1 g 0 34 g,
  0 1 0 6yr 1 r,0 1 0 6yr 1 k,0 1 0 6yr 1 3,0 1 0 6yr 1 c,0 1 0 6yq 1 r,0 1 0 6yq 1 k,
  0 1 0 6yq 1 3,0 1 0 6yq 1 c,0 1 0 6zo 1 p,0 1 0 6zo 1 g,0 1 0 6zo 1 p 0 34 p,
  0 1 0 6zo 1 g 0 34 g,0 h 1 on 1 2,g 1 0 6xk 1 r,0 1 0 6xk 1 k,0 1 0 6xk 1 3,0 1 0 6xk 1 c,
  0 1 0 6yz 1 o,0 1 0 6yz 1 e,0 1 0 6yy 1 p,0 1 0 6yy 1 g,0 1 0 6z0 1 p,0 1 0 6z0 1 g,
  0 1 0 6t8 1 p 6yz 1 o,0 1 0 6z3 1 p,0 1 0 6z3 1 g,0 1 0 6yx 1 p,0 1 0 6yx 1 g,0 1 0 6z1 1 p,
  0 1 0 6z1 1 g,0 1 0 6ze 1 r,0 1 0 6ze 1 k,0 1 0 6ze 1 3,0 1 0 6ze 1 c,0 1 0 6z9 1 3,
  0 1 0 6z9 1 c,0 1 0 6ti 1 r 6tm 1 r,0 1 0 6ti 1 k 6tm 1 k,0 1 0 6ti 1 r 6yu 1 p,
  0 1 0 6ti 1 k 6yu 1 g,0 1 0 6ti 1 r 6yv 1 r,0 1 0 6ti 1 k 6yv 1 k,0 1 0 6ti 1 r 6yz 1 o,
  0 1 0 6ti 1 k 6yz 1 e,0 1 0 6ti 1 r 6yy 1 p,0 1 0 6ti 1 k 6yy 1 g,0 1 0 6ti 1 r 6z0 1 p,
  0 1 0 6ti 1 k 6z0 1 g,0 1 0 6ti 1 r 6ze 1 r,0 1 0 6ti 1 k 6ze 1 k,0 1 0 6ti 1 3 6ze 1 3,
  0 1 0 6ti 1 r 6z9 1 r,0 1 0 6ti 1 k 6z9 1 k,0 1 0 6ti 1 3 6z9 1 3,0 1 0 6zb 1 q,
  0 1 0 6zb 1 l,0 1 0 6zb 1 9,0 1 0 6zb 1 g,0 1 0 6ti 1 r 6uf 1 q,0 1 0 6ti 1 r 6uq 1 q,
  0 1 0 6ti 1 r 6ya 1 q,0 1 0 6ti 1 r 6z9 1 r,0 1 0 6ti 1 r 6za 1 s,0 1 0 6to 1 q 6uf 1 q,
  0 1 0 6to 1 q 6uq 1 q,0 1 0 6to 1 q 6ur 1 q,0 1 0 6to 1 q 6ya 1 q,0 1 0 6to 1 q 6z9 1 r,
  0 1 0 6to 1 q 6za 1 s,0 1 0 6u5 1 q 6uf 1 q,0 1 0 6u5 1 q 6uq 1 q,0 1 0 6u5 1 q 6ur 1 q,
  0 1 0 6u5 1 q 6ya 1 q,0 1 0 6u5 1 q 6z9 1 r,0 1 0 6u5 1 q 6za 1 s,0 1 0 6u6 1 q 6uf 1 q,
  0 1 0 6u6 1 q 6ya 1 q,0 1 0 6u6 1 q 6z9 1 r,0 1 0 6u6 1 q 6za 1 s,0 1 0 6uf 1 q 6uq 1 q,
  0 1 0 6uf 1 q 6ya 1 q,0 1 0 6uq 1 q 6uf 1 q,0 1 0 6uq 1 q 6ya 1 q,0 1 0 6ur 1 q 6uf 1 q,
  0 1 0 6ur 1 q 6uq 1 q,0 1 0 6ur 1 q 6ya 1 q,0 1 0 6vz 1 q 6uf 1 q,0 1 0 6vz 1 q 6uq 1 q,
  0 1 0 6vz 1 q 6ur 1 q,0 1 0 6vz 1 q 6ya 1 q,0 1 0 6wa 1 q 6uq 1 q,0 1 0 6wa 1 q 6ya 1 q,
  0 1 0 6wb 1 q 6uf 1 q,0 1 0 6wb 1 q 6uq 1 q,0 1 0 6wb 1 q 6ur 1 q,0 1 0 6wb 1 q 6ya 1 q,
  0 1 0 6wg 1 q 6uq 1 q,0 1 0 6wg 1 q 6ya 1 q,0 1 0 6wh 1 q 6ya 1 q,0 1 0 6wm 1 q 6uf 1 q,
  0 1 0 6wm 1 q 6ya 1 q,0 1 0 6wn 1 q 6uf 1 q,0 1 0 6wn 1 q 6ya 1 q,0 1 0 6wv 1 q 6uf 1 q,
  0 1 0 6wv 1 q 6uq 1 q,0 1 0 6wv 1 q 6ur 1 q,0 1 0 6wv 1 q 6ya 1 q,0 1 0 6wv 1 q 6z9 1 r,
  0 1 0 6wv 1 q 6za 1 s,0 1 0 6x7 1 q 6uq 1 q,0 1 0 6x7 1 q 6ya 1 q,0 1 0 6x7 1 q 6z9 1 r,
  0 1 0 6x7 1 q 6za 1 s,0 1 0 6xe 1 q 6tm 1 r,0 1 0 6xe 1 q 6uf 1 q,0 1 0 6xe 1 q 6uq 1 q,
  0 1 0 6xe 1 q 6ur 1 q,0 1 0 6xe 1 q 6y2 1 q,0 1 0 6xe 1 q 6ya 1 q,0 1 0 6xe 1 q 6z9 1 r,
  0 1 0 6xe 1 q 6za 1 s,0 1 0 6y2 1 q 6uf 1 q,0 1 0 6y2 1 q 6uq 1 q,0 1 0 6y2 1 q 6ur 1 q,
  0 1 0 6y2 1 q 6ya 1 q,0 1 0 6y2 1 q 6z9 1 r,0 1 0 6y2 1 q 6za 1 s,0 1 0 6ya 1 q 6uf 1 q,
  0 1 0 6ya 1 q 6uq 1 q,0 1 0 6ya 1 q 6ur 1 q,0 1 0 6ya 1 q 6ya 1 q,0 1 0 6ya 1 q 6z9 1 r,
  0 1 0 6ya 1 q 6za 1 s,0 1 0 6ye 1 q 6uf 1 q,0 1 0 6ye 1 q 6uq 1 q,0 1 0 6ye 1 q 6ur 1 q,
  0 1 0 6ye 1 q 6ya 1 q,0 1 0 6ye 1 q 6z9 1 r,0 1 0 6ye 1 q 6za 1 s,0 1 0 6yp 1 q 6uf 1 q,
  0 1 0 6yp 1 q 6ya 1 q,0 1 0 6yp 1 q 6z9 1 r,0 1 0 6yp 1 q 6za 1 s,0 1 0 6za 1 s 6uf 1 q,
  0 1 0 6za 1 s 6uq 1 q,0 1 0 6za 1 s 6ur 1 q,0 1 0 6za 1 s 6ya 1 q,0 1 0 6za 1 s 6z9 1 r,
  0 1 0 6za 1 s 6za 1 s,0 1 0 6v2 1 o 0 3p o,0 1 0 6vg 1 o 0 3p o,0 1 0 6z9 1 r 0 3p o,
  0 1 0 0 2l g 0 31 p,0 1 0 0 2o g 0 31 p,0 1 0 0 2r p 0 31 p,0 1 0 0 2v p 0 31 p,
  0 1 0 0 2y p 0 31 p,0 1 0 0 31 p 0 3p o,0 1 0 6ti 1 k 6vg 1 e,0 1 0 6ti 1 k 6vh 1 e,
  0 1 0 6ti 1 k 6ya 1 l,0 1 0 6ti 1 k 6ye 1 l,0 1 0 6ti 1 k 6z9 1 k,0 1 0 6ti 1 k 6za 1 o,
  0 1 0 6to 1 l 6vg 1 e,0 1 0 6to 1 l 6vh 1 e,0 1 0 6to 1 l 6ya 1 l,0 1 0 6to 1 l 6ye 1 l,
  0 1 0 6to 1 l 6z9 1 k,0 1 0 6to 1 l 6za 1 o,0 1 0 6u5 1 l 6vg 1 e,0 1 0 6u5 1 l 6vh 1 e,
  0 1 0 6u5 1 l 6ya 1 l,0 1 0 6u5 1 l 6ye 1 l,0 1 0 6u5 1 l 6z9 1 k,0 1 0 6u5 1 l 6za 1 o,
  0 1 0 6u6 1 l 6vg 1 e,0 1 0 6u6 1 l 6vh 1 e,0 1 0 6u6 1 l 6ya 1 l,0 1 0 6u6 1 l 6ye 1 l,
  0 1 0 6u6 1 l 6z9 1 k,0 1 0 6u6 1 l 6za 1 o,0 1 0 6wv 1 l 6z9 1 k,0 1 0 6wv 1 l 6za 1 o,
  0 1 0 6x7 1 l 6z9 1 k,0 1 0 6x7 1 l 6za 1 o,0 1 0 6xe 1 l 6tm 1 k,0 1 0 6xe 1 l 6y2 1 l,
  0 1 0 6xe 1 l 6ya 1 l,0 1 0 6xe 1 l 6z9 1 k,0 1 0 6xe 1 l 6za 1 o,0 1 0 6y2 1 l 6ya 1 l,
  0 1 0 6y2 1 l 6z9 1 k,0 1 0 6y2 1 l 6za 1 o,0 1 0 6ya 1 l 6tm 1 k,0 1 0 6ya 1 l 6ya 1 l,
  0 1 0 6ye 1 l 6vg 1 e,0 1 0 6ye 1 l 6vh 1 e,0 1 0 6ye 1 l 6ya 1 l,0 1 0 6ye 1 l 6ye 1 l,
  0 1 0 6ye 1 l 6z9 1 k,0 1 0 6ye 1 l 6za 1 o,0 1 0 6z9 1 k 0 3p e,0 1 0 6za 1 o 6vg 1 e,
  0 1 0 6za 1 o 6vh 1 e,0 1 0 6za 1 o 6ya 1 l,0 1 0 6za 1 o 6ye 1 l,0 1 0 6za 1 o 6z9 1 k,
  0 1 0 6za 1 o 6za 1 o,0 1 0 6ti 1 3 6uf 1 9,0 1 0 6ti 1 3 6uq 1 9,0 1 0 6ti 1 3 6ur 1 9,
  0 1 0 6ti 1 3 6ya 1 9,0 1 0 6ti 1 3 6yp 1 9,0 1 0 6to 1 9 6uf 1 9,0 1 0 6to 1 9 6uq 1 9,
  0 1 0 6to 1 9 6ur 1 9,0 1 0 6to 1 9 6ya 1 9,0 1 0 6to 1 9 6yp 1 9,0 1 0 6u5 1 9 6uf 1 9,
  0 1 0 6u5 1 9 6uq 1 9,0 1 0 6u5 1 9 6ur 1 9,0 1 0 6u5 1 9 6ya 1 9,0 1 0 6u5 1 9 6yp 1 9,
  0 1 0 6u6 1 9 6ya 1 9,0 1 0 6uf 1 9 6uq 1 9,0 1 0 6uf 1 9 6ya 1 9,0 1 0 6uq 1 9 6uf 1 9,
  0 1 0 6uq 1 9 6ya 1 9,0 1 0 6ur 1 9 6uf 1 9,0 1 0 6ur 1 9 6ya 1 9,0 1 0 6vz 1 9 6uf 1 9,
  0 1 0 6vz 1 9 6uq 1 9,0 1 0 6vz 1 9 6ur 1 9,0 1 0 6vz 1 9 6ya 1 9,0 1 0 6wa 1 9 6uq 1 9,
  0 1 0 6wa 1 9 6ur 1 9,0 1 0 6wa 1 9 6ya 1 9,0 1 0 6wb 1 9 6uf 1 9,0 1 0 6wb 1 9 6uq 1 9,
  0 1 0 6wb 1 9 6ur 1 9,0 1 0 6wb 1 9 6ya 1 9,0 1 0 6wg 1 9 6uq 1 9,0 1 0 6wh 1 9 6ya 1 9,
  0 1 0 6wm 1 9 6uf 1 9,0 1 0 6wm 1 9 6ya 1 9,0 1 0 6wn 1 9 6uf 1 9,0 1 0 6wn 1 9 6ya 1 9,
  0 1 0 6wv 1 9 6uf 1 9,0 1 0 6wv 1 9 6uq 1 9,0 1 0 6wv 1 9 6ur 1 9,0 1 0 6wv 1 9 6ya 1 9,
  0 1 0 6x7 1 9 6uq 1 9,0 1 0 6x7 1 9 6ya 1 9,0 1 0 6xe 1 9 6uf 1 9,0 1 0 6xe 1 9 6uq 1 9,
  0 1 0 6xe 1 9 6ur 1 9,0 1 0 6xe 1 9 6y2 1 9,0 1 0 6xe 1 9 6ya 1 9,0 1 0 6y2 1 9 6uf 1 9,
  0 1 0 6y2 1 9 6uq 1 9,0 1 0 6y2 1 9 6ur 1 9,0 1 0 6y2 1 9 6ya 1 9,0 1 0 6y2 1 9 6yp 1 9,
  0 1 0 6ya 1 9 6uf 1 9,0 1 0 6ya 1 9 6uq 1 9,0 1 0 6ya 1 9 6ur 1 9,0 1 0 6ya 1 9 6ya 1 9,
  0 1 0 6ye 1 9 6uf 1 9,0 1 0 6ye 1 9 6uq 1 9,0 1 0 6ye 1 9 6ur 1 9,0 1 0 6ye 1 9 6ya 1 9,
  0 1 0 6ye 1 9 6yp 1 9,0 1 0 6yp 1 9 6uf 1 9,0 1 0 6yp 1 9 6ya 1 9,0 1 0 6yp 1 9 0 3p 3,
  0 1 0 6za 1 e 6uf 1 9,0 1 0 6za 1 e 6uq 1 9,0 1 0 6za 1 e 6ur 1 9,0 1 0 6za 1 e 6ya 1 9,
  0 1 0 6za 1 e 6yp 1 9,0 1 0 6ti 1 c 6ya 1 g,0 1 0 6ti 1 c 6yp 1 g,0 1 0 6to 1 g 6ya 1 g,
  0 1 0 6to 1 g 6yp 1 g,0 1 0 6u5 1 g 6ya 1 g,0 1 0 6u5 1 g 6yp 1 g,0 1 0 6u6 1 g 6ya 1 g,
  0 1 0 6u6 1 g 6yp 1 g,0 1 0 6vz 1 g 6ya 1 g,0 1 0 6vz 1 g 6yp 1 g,0 1 0 6w0 1 g 6ya 1 g,
  0 1 0 6w0 1 g 6yp 1 g,0 1 0 6xe 1 g 6y2 1 g,0 1 0 6xe 1 g 6ya 1 g,0 1 0 6y2 1 g 6ya 1 g,
  0 1 0 6ye 1 g 6ya 1 g,0 1 0 6ye 1 g 6yp 1 g,0 1 0 6za 1 j 6ya 1 g,0 1 0 6za 1 j 6yp 1 g,
  0 1 0 0 2r g 0 31 g,0 1 0 0 2v g 0 31 g,0 1 0 0 2y g 0 31 g,0 1 0 6wg 1 q 6z9 1 r,
  0 1 0 6wg 1 q 6za 1 s,0 1 0 6wm 1 q 6z9 1 r,0 1 0 6wm 1 q 6za 1 s,0 1 0 6wn 1 q 6z9 1 r,
  0 1 0 6wn 1 q 6za 1 s,0 1 0 6vz 1 q 6z9 1 r,0 1 0 6vz 1 q 6za 1 s,0 1 0 6w0 1 q 6z9 1 r,
  0 1 0 6w0 1 q 6za 1 s,0 1 0 6uq 1 q 6z9 1 r,0 1 0 6uq 1 q 6za 1 s,0 1 0 6uf 1 q 6z9 1 r,
  0 1 0 6uf 1 q 6za 1 s,0 1 0 6ur 1 q 6z9 1 r,0 1 0 6ur 1 q 6za 1 s,0 1 0 6wa 1 q 6z9 1 r,
  0 1 0 6wa 1 q 6za 1 s,0 1 0 6wb 1 q 6z9 1 r,0 1 0 6wb 1 q 6za 1 s,0 1 0 6w0 1 q 6uf 1 q,
  0 1 0 6w0 1 q 6uq 1 q,0 1 0 6w0 1 q 6ur 1 q,0 1 0 6w0 1 q 6ya 1 q,0 1 0 6w0 1 q 6vg 1 o,
  0 1 0 6vz 1 q 6vg 1 o,0 1 0 6wa 1 q 6vg 1 o,0 1 0 6wb 1 q 6vg 1 o,0 1 0 6wg 1 l 6z9 1 k,
  0 1 0 6wg 1 l 6za 1 o,0 1 0 6wm 1 l 6z9 1 k,0 1 0 6wm 1 l 6za 1 o,0 1 0 6wn 1 l 6z9 1 k,
  0 1 0 6wn 1 l 6za 1 o,0 1 0 6vz 1 l 6z9 1 k,0 1 0 6vz 1 l 6za 1 o,0 1 0 6w0 1 l 6z9 1 k,
  0 1 0 6w0 1 l 6za 1 o,0 1 0 6uq 1 l 6z9 1 k,0 1 0 6uq 1 l 6za 1 o,0 1 0 6uf 1 l 6z9 1 k,
  0 1 0 6uf 1 l 6za 1 o,0 1 0 6ur 1 l 6z9 1 k,0 1 0 6ur 1 l 6za 1 o,0 1 0 6wa 1 l 6z9 1 k,
  0 1 0 6wa 1 l 6za 1 o,0 1 0 6wb 1 l 6z9 1 k,0 1 0 6wb 1 l 6za 1 o,0 1 0 6w0 1 l 6uf 1 l,
  0 1 0 6w0 1 l 6uq 1 l,0 1 0 6w0 1 l 6ur 1 l,0 1 0 6w0 1 l 6ya 1 l,0 1 0 6w0 1 l 6vg 1 e,
  0 1 0 6vz 1 l 6vg 1 e,0 1 0 6wa 1 l 6vg 1 e,0 1 0 6wb 1 l 6vg 1 e,0 1 0 6w0 1 9 6uf 1 9,
  0 1 0 6w0 1 9 6uq 1 9,0 1 0 6w0 1 9 6ur 1 9,0 1 0 6w0 1 9 6ya 1 9,0 1 0 6vz 1 9 6yp 1 9,
  0 1 0 6w0 1 9 6yp 1 9,0 1 0 6wg 1 9 6ya 1 9,0 1 0 6vz 1 g 6uf 1 g,0 1 0 6vz 1 g 6uq 1 g,
  0 1 0 6vz 1 g 6ur 1 g,0 1 0 6w0 1 g 6uf 1 g,0 1 0 6w0 1 g 6uq 1 g,0 1 0 6w0 1 g 6ur 1 g,
  0 1 0 6wg 1 g 6ya 1 g,0 1 0 6wh 1 g 6ya 1 g,0 1 0 6tm 1 k 0 2i e,0 1 0 6tm 1 r 0 2i o,
  0 2 1 bs 1 2,0 g 1 o2 1 2,0 1 0 6u5 1 9 6uf 1 9 6ya 1 9,0 1 0 6u5 1 l 6uq 1 l 6uf 1 l,
  0 1 0 6u5 1 9 6uq 1 9 6uf 1 9,0 1 0 6u5 1 9 6uq 1 9 6ya 1 9,0 1 0 6u5 1 9 6ur 1 9 6ya 1 9,
  0 1 0 6u5 1 9 6ya 1 9 6uf 1 9,0 1 0 6u5 1 9 6ya 1 9 6uq 1 9,0 1 0 6u5 1 9 6ya 1 9 6ur 1 9,
  0 1 0 6uf 1 l 6ya 1 l 6uq 1 l,0 1 0 6uf 1 9 6ya 1 9 6uq 1 9,0 1 0 6uq 1 l 6ya 1 l 6za 1 o,
  0 1 0 6uq 1 l 6ya 1 l 6z9 1 k,0 1 0 6vz 1 9 6uq 1 9 6uf 1 9,0 1 0 6vz 1 9 6uf 1 9 6uq 1 9,
  0 1 0 6vz 1 l 6uf 1 l 6z9 1 k,0 1 0 6vz 1 l 6ya 1 l 6uq 1 l,0 1 0 6vz 1 9 6ya 1 9 6uq 1 9,
  0 1 0 6vz 1 9 6ya 1 9 6uf 1 9,0 1 0 6vz 1 l 6ya 1 l 6ya 1 l,0 1 0 6vz 1 9 6ya 1 9 6ya 1 9,
  0 1 0 6wa 1 l 6uq 1 l 6uq 1 l,0 1 0 6wa 1 9 6uq 1 9 6uq 1 9,0 1 0 6wa 1 l 6ya 1 l 6ya 1 l,
  0 1 0 6w0 1 l 6uq 1 l 6ya 1 l,0 1 0 6w0 1 9 6uq 1 9 6ya 1 9,0 1 0 6w0 1 l 6uf 1 l 6za 1 o,
  0 1 0 6w0 1 l 6ya 1 l 6ur 1 l,0 1 0 6w0 1 9 6ya 1 9 6ur 1 9,0 1 0 6w0 1 l 6ya 1 l 6ya 1 l,
  0 1 0 6w0 1 9 6ya 1 9 6ya 1 9,0 1 0 6wb 1 l 6uq 1 l 6z9 1 k,0 1 0 6wb 1 l 6ur 1 l 6ya 1 l,
  0 1 0 6wb 1 9 6ur 1 9 6ya 1 9,0 1 0 6wg 1 l 6ya 1 l 6uq 1 l,0 1 0 6wg 1 9 6ya 1 9 6uq 1 9,
  0 1 0 6wg 1 9 6ya 1 9 6ya 1 9,0 1 0 6wg 1 l 6ya 1 l 6za 1 o,0 1 0 6wm 1 l 6uf 1 l 6ya 1 l,
  0 1 0 6wm 1 l 6ya 1 l 6ya 1 l,0 1 0 6wm 1 9 6ya 1 9 6ya 1 9,0 1 0 6wm 1 l 6ya 1 l 6z9 1 k,
  0 1 0 6wn 1 l 6ya 1 l 6ya 1 l,0 1 0 6wn 1 l 6ya 1 l 6za 1 o,0 1 0 6wn 1 l 6ya 1 l 6z9 1 k,
  0 1 0 6wv 1 l 6ur 1 l 6ya 1 l,0 1 0 6wv 1 9 6ur 1 9 6ya 1 9,0 1 0 6x7 1 l 6ya 1 l 6uq 1 l,
  0 1 0 6x7 1 l 6ya 1 l 6ya 1 l,0 1 0 6y2 1 l 6uq 1 l 6ya 1 l,0 1 0 6y2 1 l 6uq 1 l 6za 1 o,
  0 1 0 6y2 1 l 6uq 1 l 6z9 1 k,0 1 0 6y2 1 9 6uf 1 9 6uf 1 9,0 1 0 6y2 1 l 6uf 1 l 6uf 1 l,
  0 1 0 6y2 1 l 6ur 1 l 6ya 1 l,0 1 0 6y2 1 9 6ur 1 9 6ya 1 9,0 1 0 6y2 1 l 6ya 1 l 6uq 1 l,
  0 1 0 6y2 1 9 6ya 1 9 6uq 1 9,0 1 0 6ya 1 9 6uq 1 9 6uf 1 9,0 1 0 6ya 1 9 6uq 1 9 6ya 1 9,
  0 1 0 6ya 1 l 6uq 1 l 6za 1 o,0 1 0 6ya 1 9 6uf 1 9 6uq 1 9,0 1 0 6ya 1 9 6uf 1 9 6ya 1 9,
  0 1 0 6ya 1 9 6ur 1 9 6uf 1 9,0 1 0 6ya 1 9 6ur 1 9 6ya 1 9,2 1 0 6ya 1 9 6uf 1 9 6ur 1 9,
  0 1 0 6yp 1 9 6ya 1 9 6uf 1 9,0 1 0 6yp 1 9 6ya 1 9 6ya 1 9,0 1 0 6ye 1 9 6uq 1 9 6ya 1 9,
  0 1 0 6ye 1 l 6uq 1 l 6z9 1 k,0 1 0 6ye 1 l 6uf 1 l 6ya 1 l,0 1 0 6ye 1 9 6uf 1 9 6ya 1 9,
  0 1 0 6ye 1 l 6uf 1 l 6z9 1 k,0 1 0 6ye 1 l 6ya 1 l 6za 1 o,0 1 0 6ye 1 l 6ya 1 l 6z9 1 k,
  0 1 0 6za 1 o 6ya 1 l 6ya 1 l,0 1 0 6za 1 e 6ya 1 9 6ya 1 9,0 1 0 6to 1 l 6ur 1 l 6za 1 o,
  0 1 0 6u5 1 l 6uf 1 l 6za 1 o,0 1 0 6u5 1 l 6uf 1 l 6z9 1 k,0 1 0 6u5 1 l 6ur 1 l 6za 1 o,
  0 1 0 6u5 1 l 6ur 1 l 6z9 1 k,0 1 0 6u5 1 l 6ya 1 l 6za 1 o,0 1 0 6u5 1 l 6ya 1 l 6z9 1 k,
  0 1 0 6uf 1 l 6ya 1 l 6za 1 o,0 1 0 6uf 1 l 6uq 1 l 6z9 1 k,0 1 0 6uf 1 l 6ya 1 l 6z9 1 k,
  0 1 0 6vz 1 l 6ur 1 l 6z9 1 k,0 1 0 6wa 1 l 6uq 1 l 6za 1 o,0 1 0 6w0 1 l 6uq 1 l 6za 1 o,
  0 1 0 6wb 1 l 6uq 1 l 6za 1 o,0 1 0 6y2 1 l 6uf 1 l 6za 1 o,0 1 0 6y2 1 l 6ya 1 l 6za 1 o,
  0 1 0 6za 1 o 6uq 1 l 6za 1 o,0 1 0 6za 1 o 6uf 1 l 6za 1 o,0 1 0 6za 1 o 6ya 1 l 6za 1 o,
  0 1 0 6ya 1 l 6ya 1 l 6za 1 o,0 1 0 6x7 1 l 6ya 1 l 6za 1 o,0 1 0 6ye 1 l 6uq 1 l 6za 1 o,
  0 1 0 6x7 1 9 6ya 1 9 6uq 1 9,0 1 0 6y2 1 9 6uq 1 9 6ya 1 9,0 1 0 6wm 1 l 6ya 1 l 6za 1 o,
  0 1 0 6xe 1 l 6ya 1 l 6za 1 o,0 1 0 6ye 1 9 6uf 1 9 6uq 1 9,0 1 0 6ya 1 l 6ur 1 l 6za 1 o,
  0 1 0 6y2 1 9 6uf 1 9 6ya 1 9,0 1 0 6xe 1 l 6ya 1 l 6ya 1 l,0 1 0 6y2 1 l 6uf 1 l 6ya 1 l,
  0 1 0 6ye 1 l 6uf 1 l 6uq 1 l,0 1 0 6uf 1 l 6uq 1 l 6za 1 o,0 1 0 6uq 1 l 6uf 1 l 6za 1 o,
  0 1 0 6ya 1 l 6uf 1 l 6za 1 o,0 1 0 6wv 1 l 6ya 1 l 6za 1 o,0 1 0 6to 1 l 6uq 1 l 6za 1 o,
  0 1 0 6xe 1 9 6ya 1 9 6ya 1 9,0 1 0 6wm 1 9 6uf 1 9 6ya 1 9,0 1 0 6wa 1 9 6ya 1 9 6ya 1 9,
  0 1 0 6vz 1 l 6ur 1 l 6za 1 o,0 1 0 6ye 1 l 6uf 1 l 6za 1 o,7 1 0 oi 1 2,
  w 1 0 6wa 1 q 6y2 1 q 6zo 1 p,0 1 0 6x7 1 q 6y2 1 q 6zo 1 p,
  0 1 0 6tm 1 r 6y2 1 q 6y2 1 q 6yp 1 q,0 1 0 6tm 1 r 6xe 1 q 6to 1 q 6vg 1 o,
  0 1 0 6ya 1 q 6uq 1 q 6ya 1 q 6v1 1 o,0 1 0 6wa 1 q 6y2 1 q 6wm 1 q 6ya 1 q,
  0 1 0 6vg 1 o 6vz 1 q 6yv 1 r 6y2 1 q,0 1 0 6wm 1 q 6y2 1 q 6za 1 s 6yp 1 q,
  0 1 0 6yv 1 r 6vz 1 q 6y2 1 q 6ya 1 q,0 1 0 6wa 1 q 6y2 1 q 6z9 1 r,0 1 0 6wa 1 q 6y2 1 q 6z9
  1 r a 1 g 6tm 1 r 6y2 1 q 6y2 1 q 6yp 1 q a 1 g 6wm 1 q 6y2 1 q 6za 1 s 6yp 1 q a 1 g 6yv 1 r
  6vz 1 q 6y2 1 q 6ya 1 q,0 1 0 6uf 1 q 6y2 1 q a 1 g 6uf 1 q 6y2 1 q 6tm 1 r 6y2 1 q 6yp 1 q,
  0 1 0 5ns 1 2,0 3 1 oj 1 2,0 g 0 0 0 0,0 1 0 11 1 r,0 1 0 1k 1 o,0 1 0 46 1 p,0 1 0 1u 1 r,
  0 1 0 1o 1 o,0 1 0 2x 1 l,0 1 0 34 1 r,0 2 1 bm 1 g,0 1 0 3m 1 l 3m 1 l 3m 1 l,6 1 0 0 1o 2,
  0 1 0 0 0 0,0 1 0 0 1n 2,0 4 0 0 0 0,0 1 0 0 x 2,0 1 0 0 0 0,0 1 0 0 1n 2,0 4 0 0 0 0,
  0 1 0 0 1p 2,0 1 0 0 0 0,0 1 0 3m 1 l 3m 1 l,0 1 0 n 1 p,0 1 0 m 1 g,0 2 0 c 1 o,
  0 2 1 8m 1 s,0 2 1 8q 1 o,0 2 1 bk 1 o,0 2 1 bi 1 g,0 2 1 bc 1 g,0 2 1 ba 1 g,0 2 1 be 1 p,
  0 2 1 bg 1 g,0 2 1 1l 1 2,0 2 1 8o 1 p,0 4 0 b 1 g,0 3 0 c 1 e,0 1 0 11 1 k,0 1 0 1k 1 3,
  0 1 0 3m 1 g,1 1 0 1o 1 e,0 1 0 1u 1 k,0 1 0 34 1 k,0 1 0 2x 1 g,0 1 0 n 1 g,0 2 1 8m 1 e,
  0 2 1 8q 1 e,0 2 1 bk 1 e,0 1 0 ci 1 p,0 1 0 cf 1 p,0 1 0 c7 1 p,0 1 0 x4 1 g,0 1 0 e 1 p,
  0 1 0 x8 1 p,0 1 0 xa 1 p,0 1 0 x9 1 g,1 1 0 cd 1 p,0 1 0 5mb 1 p,0 1 0 cj 1 p,0 1 0 c6 1 p,
  4 1 0 0 2i o,0 1 0 0 2i 3,0 1 0 0 2l g,0 1 0 0 0 0,0 1 0 0 2o g,1 1 0 0 2r p,0 1 0 0 2r g,
  0 1 0 0 2v p,0 1 0 0 2v g,0 1 0 0 2y p,0 1 0 0 2y g,0 1 0 0 31 p,0 1 0 0 31 g,0 1 0 0 32 p,
  0 1 0 0 32 g,0 2 1 6t8 1 p,0 1 0 6t9 1 g,0 1 0 6ta 1 p,0 1 0 6ta 1 g,0 1 0 6td 1 p,
  0 1 0 6td 1 g,0 1 0 6te 1 p,0 1 0 6te 1 g,0 1 0 6ti 1 r,0 1 0 6ti 1 k,0 1 0 6ti 1 3,
  0 1 0 6ti 1 c,0 1 0 6tm 1 r,0 1 0 6tm 1 k,0 1 0 6to 1 q,0 1 0 6to 1 l,0 1 0 6to 1 9,
  0 1 0 6to 1 g,0 1 0 6u4 1 p,0 1 0 6u4 1 g,0 1 0 6u5 1 q,0 1 0 6u5 1 l,0 1 0 6u5 1 9,
  0 1 0 6u5 1 g,0 1 0 6u6 1 q,0 1 0 6u6 1 l,0 1 0 6u6 1 9,0 1 0 6u6 1 g,0 1 0 6uf 1 q,
  0 1 0 6uf 1 l,0 1 0 6uf 1 9,0 1 0 6uf 1 g,0 1 0 6uq 1 q,0 1 0 6uq 1 l,0 1 0 6uq 1 9,
  0 1 0 6uq 1 g,0 1 0 6ur 1 q,0 1 0 6ur 1 l,0 1 0 6ur 1 9,0 1 0 6ur 1 g,0 1 0 6v1 1 o,
  0 1 0 6v1 1 e,0 1 0 6v2 1 o,0 1 0 6v2 1 e,0 1 0 6vg 1 o,0 1 0 6vg 1 e,0 1 0 6vh 1 o,
  0 1 0 6vh 1 e,0 1 0 6vz 1 q,0 1 0 6vz 1 l,0 1 0 6vz 1 9,0 1 0 6vz 1 g,0 1 0 6w0 1 q,
  0 1 0 6w0 1 l,0 1 0 6w0 1 9,0 1 0 6w0 1 g,0 1 0 6wa 1 q,0 1 0 6wa 1 l,0 1 0 6wa 1 9,
  0 1 0 6wa 1 g,0 1 0 6wb 1 q,0 1 0 6wb 1 l,0 1 0 6wb 1 9,0 1 0 6wb 1 g,0 1 0 6wg 1 q,
  0 1 0 6wg 1 l,0 1 0 6wg 1 9,0 1 0 6wg 1 g,0 1 0 6wh 1 q,0 1 0 6wh 1 l,0 1 0 6wh 1 9,
  0 1 0 6wh 1 g,0 1 0 6wm 1 q,0 1 0 6wm 1 l,0 1 0 6wm 1 9,0 1 0 6wm 1 g,0 1 0 6wn 1 q,
  0 1 0 6wn 1 l,0 1 0 6wn 1 9,0 1 0 6wn 1 g,0 1 0 6wv 1 q,0 1 0 6wv 1 l,0 1 0 6wv 1 9,
  0 1 0 6wv 1 g,0 1 0 6x7 1 q,0 1 0 6x7 1 l,0 1 0 6x7 1 9,0 1 0 6x7 1 g,0 1 0 6xe 1 q,
  0 1 0 6xe 1 l,0 1 0 6xe 1 9,0 1 0 6xe 1 g,0 1 0 6y2 1 q,0 1 0 6y2 1 l,0 1 0 6y2 1 9,
  0 1 0 6y2 1 g,0 1 0 6ya 1 q,0 1 0 6ya 1 l,0 1 0 6ya 1 9,0 1 0 6ya 1 g,0 1 0 6ye 1 q,
  0 1 0 6ye 1 l,0 1 0 6ye 1 9,0 1 0 6ye 1 g,0 1 0 6yp 1 q,0 1 0 6yp 1 l,0 1 0 6yp 1 9,
  0 1 0 6yp 1 g,0 1 0 6yv 1 r,0 1 0 6yv 1 k,0 1 0 6z9 1 r,0 1 0 6z9 1 k,0 1 0 6za 1 s,
  0 1 0 6za 1 o,0 1 0 6za 1 e,0 1 0 6za 1 j,0 1 0 6y2 1 q 6t9 1 p,0 1 0 6y2 1 l 6t9 1 g,
  0 1 0 6y2 1 q 6ta 1 p,0 1 0 6y2 1 l 6ta 1 g,0 1 0 6y2 1 q 6te 1 p,0 1 0 6y2 1 l 6te 1 g,
  0 1 0 6y2 1 q 6tm 1 r,0 1 0 6y2 1 l 6tm 1 k,2 1 0 0 0 0,1 1 0 2x 1 3,0 1 0 8j 1 g,
  0 1 0 ci 1 g,0 1 0 5mb 1 g,0 1 0 cj 1 g,0 1 0 cf 1 g,0 1 0 8g 1 g,0 2 1 8m 1 3,0 1 0 c7 1 g,
  0 1 0 x4 1 3,0 1 0 11 1 3,0 1 0 e 1 g,0 1 0 3m 1 3,0 1 0 cc 1 g,0 a 1 61u 1 3,0 1 0 1u 1 3,
  0 1 0 1o 1 3,0 1 0 x8 1 g,0 1 0 x9 1 3,0 1 0 xa 1 g,0 1 0 34 1 3,0 1 0 c6 1 g,0 1 0 624 1 f,
  0 1 0 62i 1 f,0 1 0 62t 1 f,0 1 0 633 1 f,0 1 0 63h 1 f,0 1 0 644 1 f,0 1 0 64d 1 f,
  0 1 0 64s 1 f,0 1 0 654 1 f,0 1 0 65h 1 f,0 1 0 65o 1 f,0 1 0 65z 1 f,0 1 0 66q 1 f,
  0 1 0 66z 1 f,0 1 0 67h 1 f,0 1 0 68b 1 f,0 1 0 68n 1 f,0 1 0 68u 1 f,0 1 0 69r 1 f,
  0 1 0 6ac 1 f,0 1 0 6aq 1 f,0 1 0 6be 1 f,0 1 0 6bn 1 i,0 1 0 6br 1 f,0 1 0 6c0 1 f,
  0 1 0 6c7 1 f,0 1 0 8o 1 g,0 1 0 cd 1 g,0 1 0 8p 1 g,0 1 0 k7 1 g,0 1 0 c 1 3,0 1 0 k4 1 g,
  0 1 0 624 1 3,0 1 0 62i 1 3,0 1 0 62t 1 3,0 1 0 633 1 3,0 1 0 63h 1 3,0 1 0 644 1 3,
  0 1 0 64d 1 3,0 1 0 64s 1 3,0 1 0 654 1 3,0 1 0 65h 1 3,0 1 0 65o 1 3,0 1 0 65z 1 3,
  0 1 0 66q 1 3,0 1 0 66z 1 3,0 1 0 67h 1 3,0 1 0 68b 1 3,0 1 0 68n 1 3,0 1 0 68u 1 3,
  0 1 0 69r 1 3,0 1 0 6ac 1 3,0 1 0 6aq 1 3,0 1 0 6be 1 3,0 1 0 6bn 1 3,0 1 0 6br 1 3,
  0 1 0 6c0 1 3,0 1 0 6c7 1 3,0 1 0 8q 1 3,0 1 0 xc 1 g,0 1 0 8r 1 3,0 1 0 xe 1 g,0 2 1 98 1 g,
  0 1 0 46 1 g,0 2 1 be 1 g,0 1 0 1k 1 e,0 1 0 z 1 g,0 1 0 cko 1 k,0 3 1 cja 1 8,0 2 1 cje 1 8,
  0 1 0 cka 1 8,0 1 0 ckc 1 8,0 1 0 cke 1 7,0 1 0 cjs 1 8,0 1 0 5m7 1 g,0 3 1 cja 1 j,
  0 2 1 cje 1 j,0 1 0 cjg 1 g,0 1 0 cjh 1 c,0 2 1 cji 1 g,0 1 0 cjk 1 e,0 1 0 cjl 1 c,
  0 2 1 cjm 1 g,0 4 1 cjo 1 c,0 1 0 cjs 1 j,0 1 0 cjt 1 c,0 1 0 cju 1 e,0 2 1 cjv 1 c,
  0 1 0 cjx 1 k,0 2 1 cjy 1 c,0 5 1 ck0 1 g,0 2 1 ck5 1 c,0 1 0 ck7 1 g,0 1 0 ck8 1 c,
  0 1 0 ck9 1 e,0 1 0 cka 1 j,0 1 0 ckc 1 j,0 1 0 cke 1 h,0 1 0 ckf 1 g,0 1 0 ckg 1 e,
  0 4 1 ckh 1 g,0 1 0 ckp 1 k,0 1 0 0 10 g,0 1 0 0 11 g,0 1 0 ccu 1 p,0 1 0 c9d 1 o,
  0 1 0 c9e 1 p,0 1 0 cfj 1 p,0 1 0 c9f 1 o,0 2 1 cfl 1 p,0 1 0 c9g 1 o,0 1 0 c9h 1 p,
  0 1 0 c9i 1 o,0 6 1 cfp 1 p,0 1 0 ca3 1 p,0 2 1 c9j 1 o,0 1 0 c9l 1 p,0 1 0 caa 1 p,
  0 1 0 c9m 1 o,0 1 0 c9n 1 p,0 2 1 c9o 1 o,0 1 0 c9q 1 p,0 5 1 c9r 1 o,3 1 0 ccv 1 o,
  0 5 1 ccw 1 p,2 2 1 cd1 1 p,0 1 0 cd3 1 o,0 3 1 cd4 1 p,2 1 0 cd7 1 p,0 1 0 cd8 1 o,
  0 4 1 cd9 1 p,2 1 0 cdd 1 p,0 1 0 cde 1 o,0 1 0 cdf 1 p,3 1 0 5ma 1 g,0 1 0 5mc 1 g,
  0 1 0 xb 1 g,0 1 0 k8 1 g,0 1 0 xd 1 g,0 1 0 5md 1 g,0 1 0 5n2 1 g,1 1 0 1bh 1 g,
  0 1 0 tq 1 g,0 1 0 ts 1 g,0 1 0 tr 1 g,0 1 0 tt 1 g,0 1 0 1fv 1 g,0 1 0 1h2 1 g,a 3 0 0 0 0,
  0 1 0 5lg 1 2,1 1 0 1 1 2,1 c 1 eo7 1 2,1 q 1 eoj 1 2,1 j 1 ep9 1 2,1 2 1 eps 1 2,
  1 f 1 epu 1 2,2 e 1 eq9 1 2,y 3f 1 eqn 1 2,5 3 1 83 1 2,4 9 1 61v 1 2,0 10 1 5qp 1 2,
  3 9 1 2yu 1 2,0 2 1 5rp 1 2,0 1 0 61v 1 2,0 1 0 61z 1 2,0 4 1 5rr 1 2,0 1 0 61z 1 2,
  0 6 1 5rv 1 2,0 1 0 61z 1 2,0 8 1 5s1 1 2,0 3 0 61v 1 2,0 4 0 61w 1 2,0 1 0 61z 1 2,
  0 j 1 5s9 1 2,0 1 0 61z 1 2,0 5 1 5ss 1 2,0 h 1 2z3 1 2,0 1 0 61u 1 2,0 1 0 5sx 1 2,
  0 3 1 2zk 1 2,1 d 1 2zn 1 2,3 1 0 300 1 2,1b 19 1 301 1 2,0 1 0 0 x 2,3m t 1 e56 1 2,
  3 1d 1 e5z 1 2,f 1 0 0 0 0,0 9 1 61v 1 2,0 i 1 5sy 1 2,4 f 1 e82 1 2,0 g 1 e8i 1 2,
  0 1 0 e8h 1 2,0 1 0 61v 1 2,0 1 0 61z 1 2,0 2 1 5qj 1 2,9 u 1 e8y 1 2,5 12 1 6mp 1 2,
  0 1 0 6mp 1 g,0 1 0 6ms 1 g,0 1 0 6mw 1 g,0 1 0 6n2 1 g,0 1 0 6n6 1 g,5 u 1 fjx 1 2,
  1 1 0 86 1 2,0 10 1 fkr 1 2,4 8 1 flr 1 2,0 1 0 87 1 2,0 2 1 61v 1 2,0 3 1 5tg 1 2,
  16 14 1 e9s 1 g,0 2g 1 e9s 1 2,0 u 1 eg3 1 2,2 a 1 61u 1 2,6 10 1 am8 1 g,4 10 1 am8 1 2,
  4 14 1 egx 1 2,8 1g 1 ei1 1 2,b 1 0 ho 1 2,0 b 1 ejh 1 g,1 f 1 ejs 1 g,1 7 1 ek7 1 g,
  1 2 1 eke 1 g,1 b 1 ejh 1 2,1 f 1 ejs 1 2,1 7 1 ek7 1 2,1 2 1 eke 1 2,1v 8n 1 eu2 1 2,
  9 m 1 f2p 1 2,a 8 1 f3b 1 2,o 1 0 624 1 n 624 1 n,0 2 1 5lh 1 g,0 1 0 624 2 p 63h 1 n,
  0 1 0 62j 1 g,0 1 0 62q 1 p,1 1 0 633 1 n 6c7 1 n,0 1 0 633 1 n 6cd 1 p,
  0 1 0 633 1 n 6ce 1 p,0 1 0 633 1 n 6ci 1 o,0 2 1 639 1 p,0 1 0 63c 1 g,0 1 0 63v 1 g,
  0 1 0 641 1 g,0 1 0 644 1 n 67d 1 o,0 1 0 643 1 p,0 1 0 64i 1 p,0 1 0 64l 1 p,0 1 0 64m 1 g,
  0 1 0 64s 1 n 0 12 g,0 1 0 64t 1 g,0 1 0 651 1 g,0 1 0 65n 1 g,0 1 0 65z 1 n 69r 1 n,
  0 1 0 65z 1 n 6c7 1 n,0 1 0 669 1 p,0 1 0 66a 1 g,0 1 0 66g 1 g,0 2 1 66k 1 g,0 2 1 66o 1 g,
  0 1 0 67h 1 n 0 s g,0 1 0 67l 1 g,0 1 0 687 1 g,0 1 0 68n 1 n,0 2 1 693 1 g,0 1 0 699 1 p,
  0 1 0 69c 1 g,0 1 0 68w 1 o,0 1 0 6ac 1 n 630 1 p,0 1 0 6ac 1 n 69r 1 n,
  0 1 0 6ac 1 n 69w 1 o,0 1 0 6ac 1 n 6a3 1 o,0 1 0 6aj 1 p,0 1 0 6bj 1 g,1 1 0 6c1 1 g,
  0 2 1 6dp 1 g,0 1 0 6e0 1 g,0 3 1 6dt 1 g,0 1 0 6dx 1 g,0 1 0 69y 1 g,1x 6 1 f3j 1 2,
  2 1 0 f3p 1 2,1 18 1 f3q 1 2,1 2 1 f4y 1 2,3 1 0 f50 1 2,2 1 0 f51 1 2,0 m 1 fcn 1 2,
  1 1 0 6j 1 2,0 3 1 61v 1 2,0 5 1 5tx 1 2,0 d 1 fau 1 2,0 1 0 fb7 1 g,0 9 1 fb7 1 2,
  0 2 1 31a 1 2,0 5 1 61v 1 2,0 2 1 5tj 1 2,0 1 0 fbg 1 g,0 1 0 fbg 1 2,0 1 0 fbh 1 g,
  0 3 1 fbh 1 2,0 1 0 fbk 1 g,0 5 1 fbk 1 2,0 1 0 fbp 1 g,0 1 0 fbp 1 2,0 1 0 fbq 1 g,
  0 1 0 fbq 1 2,0 1 0 fbr 1 g,0 1 0 fbr 1 2,0 1 0 fbs 1 g,0 1 0 fbs 1 2,0 1 0 fbt 1 g,
  0 7 1 fbt 1 2,0 1 0 fc0 1 g,0 2 1 fc0 1 2,8 4 1 61v 1 2,0 2 1 61y 1 2,0 3 1 5tl 1 2,
  1c j 1 fc2 1 2,1 2 1 fcl 1 2,5 1 0 61v 1 2,0 1 0 61z 1 2,0 3 1 5to 1 2,0 m 1 6rw 1 2,
  0 1 0 61v 1 2,0 3 1 5tu 1 2,0 2 1 61w 1 2,3 1 0 88 1 2,0 q 1 e7c 1 2,5 1 0 82 1 2,
  1s 7 1 haz 2 2,0 1 0 hb5 8 2,0 3 1 hb6 2 2,0 1 0 hb8 8 2,0 1 0 hb9 2 2,0 1 0 hb9 8 2,
  0 1 0 hba 2 2,0 1 0 hba 8 2,0 3 1 hbb 2 2,0 1 0 hbe 6 2,0 1 0 hbe a 2,0 4 1 hbf 2 2,
  0 1 0 hbi 8 2,0 1 0 hbj 2 2,0 1 0 hbj 8 2,0 2 1 hbk 2 2,0 2 1 hbo 1 2,0 g 1 haz 1 2,
  0 1 0 hbe 2 2,0 7 1 hbf 1 2,4 1 0 613 1 2,0 1 0 60s 1 2,0 2 1 hbm 1 2,0 9 1 61v 1 2,
  0 7 1 5zl 1 2,2 10 1 5zs 1 2,0 a 1 60t 1 2,0 4 1 930 1 2,1 2 1 934 1 2,5 1 0 936 1 2,
  0 1 0 0 x 2,0 1 0 0 4x 2,0 1 0 0 4y 2,0 1 0 937 1 2,0 3 1 939 1 2,1 3 1 93c 1 2,
  1 2 1 93f 1 2,0 1 0 93i 1 2,0 h 1 93k 1 2,0 5 1 942 1 2,0 1 0 938 1 2,0 1 0 93j 1 2,
  0 1 0 93h 1 2,0 1 0 941 1 2,2 1 0 0 56 2,0 1 0 0 57 2,0 1 0 0 58 2,4 1 0 947 1 2,
  0 4 1 61v 1 2,0 5 1 5v4 1 2,7 6 1 hu 1 2,0 2 1 52 1 2,0 1 0 i0 1 2,7 t 1 f7r 1 2,
  0 1 0 61v 1 2,0 1 0 5tr 1 2,0 1 0 i5 1 2,0 t 1 f8k 1 2,0 1 0 61v 1 2,0 2 1 5ts 1 2,
  w 8 1 ffi 1 2,0 1 0 ffp 2 2,0 s 1 ffq 1 2,0 1 0 0 w 2,0 1 0 0 x 2,4 1 0 61v 1 2,
  0 1 0 61z 1 2,0 3 1 5u2 1 2,0 7 1 i6 1 2,9 1a 1 f9d 1 2,0 1 0 fam 2 2,0 7 1 fan 1 2,
  3 1 0 i4 1 2,0 6 1 6k 1 2,0 m 1 fd9 1 2,2 4 1 61v 1 2,0 4 1 5u5 1 2,0 j 1 fdv 1 2,
  5 4 1 61v 1 2,0 4 1 5u9 1 2,0 i 1 fee 1 2,7 4 1 id 1 2,c 4 1 61v 1 2,0 3 1 5ud 1 2,
  28 1 0 bag 1 2,0 1 0 bag 2 2,0 2 1 bah 1 2,0 1 0 bai 2 2,0 3 1 baj 1 2,0 1 0 bal 2 2,
  0 1 0 bam 1 2,0 1 0 bam 2 2,0 1 0 ban 1 2,0 1 0 ban 2 2,0 1 0 bao 1 2,0 1 0 bao 2 2,
  0 1 0 bap 1 2,0 1 0 bap 2 2,0 1 0 baq 1 2,0 1 0 baq 2 2,0 2 1 bar 1 2,0 1 0 bas 2 2,
  0 1 0 bat 1 2,0 1 0 bat 2 2,0 1 0 bau 1 2,0 1 0 bau 2 2,0 1 0 bav 1 2,0 1 0 bav 2 2,
  0 1 0 baw 1 2,0 1 0 baw 2 2,0 1 0 bax 1 2,0 1 0 bax 2 2,0 5 1 bay 1 2,0 1 0 bb2 2 2,
  0 1 0 bb3 1 2,0 1 0 bb3 2 2,0 1 0 bb4 1 2,0 1 0 bb4 2 2,0 1 0 bb5 1 2,0 1 0 bb5 2 2,
  0 2 1 bb6 1 2,0 1 0 bb7 2 2,0 4 1 bb8 1 2,0 1 0 bbb 2 2,0 1 0 bbc 1 2,0 1 0 bbc 2 2,
  0 1 0 bbd 1 2,0 1 0 bbd 2 2,0 1 0 bbe 1 2,0 1 0 bbe 2 2,0 1 0 bbf 1 2,0 1 0 bbf 2 2,
  0 4 1 bbg 1 2,0 1 0 bbj 2 2,0 1 0 bbk 1 2,0 1 0 bbk 2 2,0 1 0 bbl 1 2,0 1 0 bbl 2 2,
  0 1 0 bbm 1 2,0 1 0 bbm 2 2,0 2 1 bbn 1 2,1j 1 0 b9b 1 g,0 1 0 b9b 2 g,0 8 1 b9c 1 g,
  0 1 0 b9j 2 g,0 1 0 b9j 8 g,0 5 1 b9k 1 g,0 1 0 b9o 2 g,0 a 1 b9p 1 g,0 1 0 b9y 2 g,
  0 1 0 b9z 1 g,0 1 0 b9z 2 g,0 1 0 b9z 8 g,0 3 1 ba0 1 g,0 1 0 ba2 2 g,0 7 1 ba3 1 g,
  0 1 0 ba9 2 g,0 1 0 baa 1 g,0 1 0 baa 2 g,0 5 1 bab 1 g,d 1 0 b9b 1 2,0 1 0 b9b 2 2,
  0 8 1 b9c 1 2,0 1 0 b9j 2 2,0 1 0 b9j 8 2,0 5 1 b9k 1 2,0 1 0 b9o 2 2,0 a 1 b9p 1 2,
  0 1 0 b9y 2 2,0 1 0 b9z 1 2,0 1 0 b9z 2 2,0 1 0 b9z 8 2,0 3 1 ba0 1 2,0 1 0 ba2 2 2,
  0 7 1 ba3 1 2,0 1 0 ba9 2 2,0 1 0 baa 1 2,0 1 0 baa 2 2,0 5 1 bab 1 2,7 1 0 61v 1 2,
  0 1 0 61z 1 2,0 4 1 5ql 1 2,0 1 0 9yj 1 2,0 s 1 9yp 1 2,0 5 1 9yk 1 2,0 2 1 9zh 1 2,
  0 4 0 0 w 2,8 a 1 61u 1 2,86 9 1 61v 1 2,0 m 1 5pw 1 2,1 x 1 fi4 1 2,0 8 1 fj2 1 2,
  0 1 0 fjb 1 2,1 1 0 0 34 2,0 1 0 0 33 2,0 1 0 10 1 2,2 1 0 fj1 1 2,0 1 0 fja 1 2,
  23 3 0 0 0 0,0 1 0 fgi 1 2,0 1 0 fgi 1 g,0 1 0 fgj 1 2,0 1 0 fgj 1 g,0 2 1 fgk 1 2,
  0 1 0 fgl 1 g,0 8 1 fgm 1 2,0 1 0 fgt 1 g,0 1 0 fgt 2 2,0 2 1 fgu 1 2,0 1 0 fgv 2 2,
  0 2 1 fgw 1 2,0 1 0 fgx 1 g,0 1 0 fgx 2 2,0 3 1 fgy 1 2,0 1 0 fh0 1 g,0 1 0 fh0 2 2,
  0 5 1 61v 1 2,0 5 1 5ug 1 2,0 1 0 fgv 1 g fgy 1 g,8 l 1 fh1 1 2,0 1 0 fhi 2 2,0 2 0 0 x 2,
  0 3 0 0 w 2,0 1 0 0 x 2,0 1 0 0 w 2,0 4 0 0 x 2,0 1 0 61v 1 2,0 3 1 5ul 1 2,0 5 1 6q 1 2,
  m i 1 fhm 1 2,0 1 0 0 w 2,0 1 0 0 x 2,0 1 0 0 w 2,0 1 0 0 x 2,0 4 1 6v 1 2,12 l 1 fjc 1 2,
  0 4 1 61v 1 2,0 3 1 5uo 1 2,k m 1 few 1 2,0 1 0 ff2 1 g ff5 1 g,9 1 0 0 4w 2,0 1 0 0 4x 2,
  0 1 0 0 4y 2,0 2 1 92a 1 2,0 a 1 90x 1 2,0 2 1 918 1 2,0 z 1 91b 1 2,0 2 1 92c 1 2,
  0 c 1 92f 1 2,0 2 1 92s 1 2,0 3 1 92v 1 2,0 2 1 54 1 2,0 5 1 hp 1 2,4 9 1 61v 1 2,
  0 b 1 5ut 1 2,0 a 1 61u 1 2,0 1 0 92z 1 2,0 1 0 917 1 2,0 1 0 91a 1 2,0 1 0 92r 1 2,
  0 1 0 92u 1 2,0 1 0 92e 1 2,9 1 0 92y 1 2,0 1 0 0 4w 2,0 1 0 0 4x 2,0 1 0 0 4y 2,
  0 n 1 877 1 2,1 1 0 87u 1 2,1 e 1 87v 1 2,1 9 1 889 1 2,0 5 1 88j 1 2,0 1 0 0 4v 2,
  0 2 1 ih 1 2,0 1 0 0 0 0,0 2 1 6z 1 2,0 2 1 56 1 2,0 1 0 88i 1 2,a 1 0 0 0 0,2 p 1 ekg 1 2,
  7 a 1 61u 1 2,6 1 0 0 4w 2,0 1 0 0 4x 2,0 1 0 0 4y 2,0 x 1 9zj 1 2,0 3 1 a0h 1 2,
  0 7 1 a0l 1 2,2 3 1 a0u 1 2,0 2 1 a0z 1 2,1 a 1 61u 1 2,0 1 0 71 1 2,0 2 1 58 1 2,
  0 1 0 3i 1 2,0 1 0 a0k 1 2,0 2 1 a0x 1 2,0 1 0 a0g 1 2,8 w 1 88o 1 2,0 3 1 89l 1 2,
  0 1 0 0 4v 2,0 2 1 ij 1 2,0 1 0 89k 1 2,9 1 0 0 4w 2,0 1 0 0 4x 2,0 1 0 0 4y 2,
  0 1c 1 89q 1 2,0 a 1 8b6 1 2,0 4 1 8bh 1 2,0 3 1 8b2 1 2,0 1 0 89o 1 2,0 2 1 5a 1 2,
  0 1 0 im 1 2,0 1 0 72 1 2,0 1 0 0 4z 2,0 1 0 0 4v 2,0 1 0 0 59 2,0 1 0 0 5a 2,0 1 0 il 1 2,
  0 1 0 8bg 1 2,0 1 0 0 4w 2,0 a 1 61u 1 2,0 1 0 89p 1 2,0 1 0 in 1 2,0 1 0 8b5 1 2,
  0 1 0 io 1 2,0 2 1 73 1 2,1 9 1 61v 1 2,0 b 1 5vj 1 2,b 2 1 8bl 1 2,0 7 1 8bo 1 2,
  0 9 1 8bw 1 2,1 t 1 8c5 1 2,0 4 1 8cz 1 2,0 1 0 0 4x 2,0 1 0 8d3 1 2,0 1 0 0 4v 2,
  0 1 0 0 31 2,0 2 1 5c 1 2,0 4 1 ip 1 2,0 1 0 0 32 2,0 1 0 8bv 1 2,0 1 0 8bn 1 2,
  0 1 0 8cy 1 2,1q 4 1 8ep 1 2,0 3 1 8ev 1 2,1 1 0 8ey 1 2,1 4 1 8ez 1 2,1 f 1 8f3 1 2,
  1 6 1 8fi 1 2,0 2 1 8et 1 2,0 2 1 8fo 1 2,0 1 0 75 1 2,6 1b 1 8d4 1 2,0 1 0 0 4x 2,
  0 9 1 8ef 1 2,0 1 0 0 4v 2,0 1 0 8eo 1 2,5 a 1 61u 1 2,6 1 0 0 4x 2,0 1 0 0 4w 2,
  0 1 0 0 4x 2,0 1 0 0 4y 2,1 7 1 8fr 1 2,0 1 0 8fz 1 2,2 2 1 8g1 1 2,2 m 1 8g3 1 2,
  1 7 1 8gp 1 2,1 2 1 8gw 1 2,1 5 1 8gy 1 2,1 2 0 0 4v 2,0 1 0 8h3 1 2,0 7 1 8h6 1 2,
  2 2 1 8hf 1 2,4 1 0 8hj 1 2,2 1 0 8fq 1 2,6 1 0 8hk 1 2,5 1 0 8hl 1 2,0 2 1 8h4 1 2,
  0 1 0 8fy 1 2,0 1 0 8g0 1 2,0 2 1 8hd 1 2,2 7 0 0 0 0,3 5 0 0 0 0,3v 1h 1 8ho 1 2,
  0 e 1 8ja 1 2,0 1 0 0 4w 2,0 1 0 0 4x 2,0 1 0 0 4y 2,0 1 0 0 4v 2,0 1 0 8j5 1 2,
  0 1 0 8j8 1 2,0 2 1 8hm 1 2,0 2 1 5e 1 2,0 1 0 it 1 2,0 2 1 iv 1 2,0 a 1 61u 1 2,
  0 1 0 iu 1 2,0 1 0 ix 1 2,1 1 0 iy 1 2,0 1 0 0 4z 2,0 1 0 8j9 1 2,0 2 1 8j6 1 2,
  u 1c 1 8jp 1 2,0 b 1 8l3 1 2,2 1 0 8lg 1 2,1 1 0 0 4w 2,0 1 0 0 4x 2,0 1 0 0 4y 2,
  0 1 0 8li 1 2,0 1 0 0 4v 2,0 2 1 8l1 1 2,0 1 0 iz 1 2,0 1 0 8jo 1 2,8 a 1 61u 1 2,
  4m 1i 1 8lj 1 2,2 2 1 8n1 1 2,2 1 0 0 4w 2,0 1 0 0 4x 2,0 1 0 0 4y 2,0 1 0 8n5 1 2,
  0 1 0 0 4v 2,0 1 0 j0 1 2,0 2 1 5g 1 2,0 k 1 j1 1 2,0 1 0 8ll 2 2,0 1 0 8ll 8 2,
  0 2 1 8lm 2 2,0 2 1 8mx 2 2,y 1p 1 8n6 1 2,0 1 0 0 4x 2,0 1 0 0 4y 2,0 1 0 8ov 1 2,
  0 1 0 0 4w 2,0 2 1 5i 1 2,0 1 0 jl 1 2,0 1 0 8ow 1 2,b a 1 61u 1 2,6 d 1 ef 1 2,
  j a 1 8ox 1 2,0 2 1 8pa 1 2,0 r 1 8pd 1 2,0 1 0 8p8 1 2,0 1 0 8p7 1 2,0 1 0 8p9 1 2,
  0 1 0 8q4 1 2,0 1 0 0 4x 2,0 1 0 0 4y 2,0 a 1 8q5 1 2,0 1 0 0 4v 2,0 1 0 8pc 1 2,
  0 1 0 jm 1 2,6 a 1 61u 1 2,1i 5 1 8v9 1 2,0 1 0 8vd 2 2,0 g 1 8ve 1 2,0 1 0 8vt 2 2,
  0 3 1 8vu 1 2,0 1 0 8vg 2 2,2 3 1 8wg 1 2,0 c 1 8w4 1 2,4 a 1 61u 1 2,0 2 1 5ur 1 2,
  0 2 1 5k 1 2,0 1 0 76 1 2,0 1 0 rk 1 2,0 7 1 8vx 1 2,55 1j 1 8tp 1 2,0 1 0 0 4x 2,
  0 1 0 0 4y 2,0 1 0 8v8 1 2,0 1 0 0 4v 2,0 1 0 jn 1 2,2s w 1 dvy 1 g,0 w 1 dvy 1 2,
  0 a 1 61u 1 2,0 9 1 5vu 1 2,c 1 0 dvx 1 2,0 7 1 8qf 1 2,2 1 0 8qm 1 2,2 5 1 8qn 1 2,
  0 3 1 8qt 1 2,1 2 1 8qw 1 2,1 e 1 8qy 1 2,0 1 0 8rd 1 2,0 1 0 8rf 1 2,0 e 1 8rh 1 2,
  1 1 0 8rv 1 2,3 1 0 0 4x 2,0 1 0 0 4w 2,0 2 1 8rx 1 2,0 1 0 8qs 1 2,0 1 0 8rc 1 2,
  0 1 0 8re 1 2,0 1 0 8rg 1 2,0 1 0 0 4v 2,0 1 0 5m 1 2,0 1 0 jo 1 2,0 1 0 77 1 2,
  9 a 1 61u 1 2,1y 8 1 8rz 1 2,2 13 1 8s7 1 2,0 7 1 8tc 1 2,2 1 0 8tj 1 2,0 3 1 8tl 1 2,
  0 1 0 0 4x 2,0 1 0 0 4y 2,0 1 0 8to 1 2,0 1 0 8ta 1 2,0 1 0 jp 1 2,0 1 0 8tb 1 2,
  0 1 0 8tk 1 2,r b 1 9f2 1 2,0 1 0 9dy 1 2,0 12 1 9e0 1 2,0 1 0 9dz 1 2,0 1 0 0 4v 2,
  0 1 0 9fd 1 2,0 3 0 0 4w 2,0 1 0 0 4x 2,0 1 0 0 4y 2,0 1 0 9ev 1 g,0 1 0 9eu 1 g,
  0 1 0 9ev 1 p,0 2 1 9ew 1 g,0 8 1 g4 1 2,0 1 0 9fe 1 2,8 4 1 9ff 1 2,0 1 0 9fl 1 2,
  0 1 0 9fn 1 2,0 1 0 9fm 1 2,0 2 1 9fo 1 2,0 2 1 9fj 1 2,0 2 1 9fq 1 2,0 12 1 9ft 1 2,
  0 1 0 9fs 1 2,0 2 1 9gv 1 2,0 2 1 9go 1 g,0 1 0 9gr 1 g,0 1 0 9gt 1 g,0 1 0 9fr 1 g,
  0 1 0 9ft 1 g,0 1 0 9fw 1 g,0 1 0 9g7 1 g,0 2 1 9gb 1 g,0 1 0 9gg 1 g,0 2 1 9go 1 p,
  0 1 0 9gr 1 p,0 1 0 9gt 1 p,0 1 0 9gm 1 g,0 1 0 0 4x 2,0 1 0 0 4y 2,0 1 0 0 5b 2,
  0 1 0 9gx 1 2,0 3 1 gc 1 2,0 1 0 9gy 1 2,0 5 1 gf 1 2,d g 1 b6v 1 2,0 l 1 dx1 1 2,
  0 7 1 dwu 1 2,0 2 1 dxm 1 2,0 1 0 dxt 1 2,0 5 1 dxo 1 2,0 1 0 dxu 1 2,0 1 0 dy0 1 2,
  0 1 0 dxy 1 2,0 1 0 dyc 1 2,0 1 0 dy1 1 2,0 1 0 dxz 1 2,0 1 0 dyd 1 2,0 1 0 dy8 1 2,
  0 1 0 dy6 1 2,0 1 0 dy9 1 2,0 1 0 dy7 1 2,0 1 0 dxv 1 2,0 1 0 dye 1 2,0 1 0 dxx 1 2,
  0 1 0 dxw 1 2,0 1 0 dy4 1 2,0 1 0 dy2 1 2,0 1 0 dya 1 2,0 1 0 dy5 1 2,0 1 0 dy3 1 2,
  0 1 0 dyb 1 2,7 a 1 ex 1 2,6u 9 1 948 1 2,1 11 1 94h 1 2,0 8 1 95j 1 2,1 4 1 95r 1 2,
  0 1 0 0 4w 2,0 1 0 0 4x 2,0 1 0 0 4y 2,0 1 0 95v 1 2,0 1 0 95i 1 2,0 2 1 5n 1 2,0 3 1 i1 1 2,
  a a 1 61u 1 2,0 9 1 61v 1 2,0 a 1 5v9 1 2,3 2 1 gk 1 2,0 1 0 9gz 1 2,0 1 0 9h1 1 2,
  0 1 0 9h3 1 2,0 1 0 9h5 1 2,0 1 0 9h7 1 2,0 1 0 9h9 1 2,0 1 0 9hb 1 2,0 1 0 9hd 1 2,
  0 1 0 9hf 1 2,0 1 0 9hh 1 2,0 1 0 9hj 1 2,0 1 0 9hl 1 2,0 1 0 9hn 1 2,0 1 0 9hp 1 2,
  0 1 0 9hr 1 2,0 1 0 9ht 1 2,0 1 0 9hv 1 2,0 1 0 9hx 1 2,0 1 0 9hz 1 2,0 1 0 9i1 1 2,
  0 1 0 9i3 1 2,0 1 0 9i5 1 2,0 2 1 9i7 1 2,0 1 0 9ia 1 2,0 1 0 9ic 1 2,0 1 0 9ie 1 2,
  0 1 0 9ig 1 2,0 1 0 9ii 1 2,0 1 0 9ik 1 2,2 1 0 9h0 1 2,0 1 0 9h2 1 2,0 1 0 9h4 1 2,
  0 1 0 9h6 1 2,0 1 0 9h8 1 2,0 1 0 9ha 1 2,0 1 0 9hc 1 2,0 1 0 9he 1 2,0 1 0 9hg 1 2,
  0 1 0 9hi 1 2,0 1 0 9hk 1 2,0 1 0 9hm 1 2,0 1 0 9ho 1 2,0 1 0 9hq 1 2,0 1 0 9hs 1 2,
  0 1 0 9hu 1 2,0 1 0 9hw 1 2,0 1 0 9hy 1 2,0 1 0 9i0 1 2,0 1 0 9i2 1 2,0 1 0 9i4 1 2,
  0 1 0 9i6 1 2,1 1 0 9i9 1 2,0 1 0 9ib 1 2,0 1 0 9id 1 2,0 1 0 9if 1 2,0 1 0 9ih 1 2,
  0 1 0 9ij 1 2,0 6 1 9il 1 2,0 1 0 0 4x 2,0 1 0 0 4w 2,21 7 1 8wj 1 2,1 2 1 8wq 1 2,
  1 18 1 8ws 1 2,3 1 0 8y0 1 2,1 2 1 8y1 1 2,1 1 0 8y3 1 2,0 1 0 0 4x 2,0 1 0 0 4y 2,
  0 1 0 0 4v 2,0 1 0 0 4w 2,0 2 1 8y4 1 2,0 1 0 8xj 1 g,0 1 0 8xj 1 p,8 a 1 61u 1 2,
  6 6 1 8y7 1 2,1 2 1 8yd 1 2,1 11 1 8yf 1 2,1 2 1 8zg 1 2,1 2 1 8zi 1 2,0 1 0 0 4x 2,
  0 1 0 0 4y 2,0 1 0 8zk 1 2,0 1 0 8y6 1 2,7 a 1 61u 1 2,8m n 1 9q9 1 2,0 2 1 78 1 2,
  7 1 0 0 4w 2,0 1 0 0 4x 2,0 1 0 aem 1 2,0 1 0 0 4y 2,0 d 1 adi 1 2,1 r 1 adv 1 2,
  0 e 1 aen 1 2,3 5 1 af1 1 2,0 2 1 5p 1 2,0 b 1 7a 1 2,0 a 1 61u 1 2,2e 1 0 drl 1 2,
  f l 1 5oe 1 2,0 8 1 pe 1 2,0 4 1 5mo 1 2,0 h 1 pm 1 2,d 1 0 jq 1 2,0 gz 1 flz 1 2,
  0 35 1 g30 1 2,0 2 1 g2y 1 2,0 5g 1 g65 1 2,2u 8 1 61w 1 2,0 7 1 61x 1 2,0 6 1 61y 1 2,
  0 9 1 61v 1 2,0 5 1 61v 1 2,0 2 1 61w 1 2,0 7 1 61x 1 2,0 3 1 61v 1 2,0 3 1 61x 1 2,
  0 2 1 614 1 2,0 3 1 61v 1 2,0 3 1 61x 1 2,0 2 0 61x 1 2,0 4 0 61y 1 2,0 2 1 620 1 2,
  0 2 0 621 1 2,0 2 0 622 1 2,0 4 0 623 1 2,0 5 1 61w 1 2,0 4 1 61v 1 2,0 2 1 61y 1 2,
  0 1 0 61z 1 2,0 2 1 61w 1 2,0 2 1 61v 1 2,0 f 1 616 1 2,0 6 1 61y 1 2,1 5 1 89 1 2,
  b 5g 1 gbl 1 2,218 2p 1 f52 1 2,0 2 1 8e 1 2,d ts 1 gh1 1 2,0 h 0 0 0 0,0 6 1 hat 1 2,
  0 f 0 0 0 0,33e g7 1 hbq 1 2,6nt ft 1 ble 1 2,7 v 1 el5 1 2,1 a 1 61u 1 2,4 2 1 5r 1 2,
  0 27 1 em0 1 2,1 a 1 61u 1 2,6 u 1 c17 1 2,2 1 0 0 4l 2,0 1 0 0 4m 2,0 1 0 0 4n 2,
  0 1 0 0 4o 2,0 1 0 0 4p 2,0 1 0 43 1 2,a 1c 1 dyf 1 2,0 1 0 0 6c 2,0 1 0 0 6d 2,0 1 0 0 6e 2,
  0 1 0 0 6f 2,0 1 0 0 6g 2,0 1 0 0 6h 2,0 1 0 0 6i 2,0 5 1 jr 1 2,0 4 1 31c 1 2,0 2 1 dzr 1 2,
  0 2 1 5lu 1 2,0 1 0 jw 1 2,0 1 0 31g 1 2,a a 1 61u 1 2,1 7 1 5w3 1 2,1 l 1 dzt 1 2,
  5 j 1 e0e 1 2,j4 w 1 c7i 1 g,0 w 1 c7i 1 2,0 a 1 61u 1 2,0 a 1 5wa 1 2,0 3 1 61v 2 2,
  0 1 0 1j 1 2,0 1 0 44 1 2,0 2 1 jx 1 2,2t 4 1 drw 1 2,0 2 1 ds1 1 2,0 1 0 ds1 1 g,
  0 7 1 ds3 1 2,0 2 1 dsb 1 2,0 3 1 dse 1 2,0 1 0 dse 1 g,0 h 1 dsh 1 2,0 1 0 dsw 1 g,
  0 d 1 dsy 1 2,0 1 0 dtc 1 2,0 6 1 dte 1 2,0 5 1 dtl 1 2,0 1 0 dto 1 g,0 5 1 dtq 1 2,
  0 1 0 ds0 1 2,0 1 0 dtd 1 2,0 1 0 dtb 1 2,0 1 0 dsa 1 2,0 1 0 dtk 1 2,0 1 0 dsd 1 2,
  4 1 0 dtz 1 2,0 4 1 dtv 1 2,0 5 1 du0 1 2,0 4 1 du6 1 2,0 4 1 dub 1 2,0 5 1 dug 1 2,
  0 8 1 dum 1 2,0 5 1 duw 1 2,0 2 1 dv2 1 2,0 a 1 dv6 1 2,0 1 0 duu 1 2,0 1 0 dv1 1 2,
  0 1 0 du5 1 2,0 1 0 dv5 1 2,0 1 0 dua 1 2,0 1 0 duf 1 2,0 1 0 dv4 1 2,0 1 0 dul 1 2,
  0 1 0 duv 1 2,7 h 1 dvg 1 2,1s 2 1 5m0 1 2,0 1 0 1n 1 2,0 1 0 5m2 1 2,0 1 0 0 0 0,
  b 1 0 0 6x 2,0 1 0 0 6y 2,e 4qg 1 hrx 1 2,8 lc 1 mid 1 2,0 d2 1 ney 1 2,16 9 1 n3p 1 2,
  6w7 4 1 ne 1 2,1 7 1 ni 1 2,1 2 1 np 1 2,1 1 0 cjd 1 2,0 1 0 cl3 1 2,0 d 1 ckq 1 2,
  0 7k 1 cl4 1 2,0 1 0 ckm 1 2,0 1 0 ckb 1 2,0 1 0 ckd 1 2,0 1 0 ckm 1 g,f 1 0 cjk 1 1,
  t 1 0 ckl 1 1,0 2 1 ckn 1 1,2 1 0 cjk 1 3,e 1 0 ckl 1 3,0 3 1 ckn 1 3,8 b0 1 n3y 1 2,
  1s4 2z 1 ec8 1 2,5 d 1 ef7 1 2,3 9 1 efk 1 2,7 a 1 eft 1 2,2 1 0 3ik 1 2,0 1 0 0 w 2,
  0 1 0 0 y 2,0 1 0 45 1 2,0 4 0 0 0 0,3mk 1a 0 0 0 0,2 n 0 0 0 0,9 38 1 31i 1 2,
  1o 6u 1 34q 1 2,a 13 1 3bk 1 2,2 1 0 3d6 1 2,0 g 1 3cq 1 2,0 10 1 3d7 1 2,7 5 0 0 0 0,
  0 3 1 3e7 1 2,0 m 0 0 0 0,0 2 1 3ea 1 2,0 7 0 0 0 0,0 u 1 3ec 1 2,0 4 0 0 0 0,0 d 1 3f6 1 2,
  6 16 1 3fj 1 2,l 1u 1 3gp 1 2,0 3 0 0 0 0,0 1 0 3ij 1 2,3e a 1 61u 1 2,0 a 1 5wk 1 2,
  c a 1 61u 1 2,0 a 1 5wu 1 2,c 2f 1 2uw 1 2,9 9 1 61v 1 2,0 9 1 61l 1 2,0 5 1 61v 1 2,
  0 1 0 61v 1 2,0 1 0 61z 1 2,3r 1 0 624 1 j,0 1 0 62i 1 j,0 1 0 62t 1 j,0 1 0 633 1 j,
  0 1 0 63h 1 j,0 1 0 644 1 j,0 1 0 64d 1 j,0 1 0 64s 1 j,0 1 0 654 1 j,0 1 0 65h 1 j,
  0 1 0 65o 1 j,0 1 0 65z 1 j,0 1 0 66q 1 j,0 1 0 66z 1 j,0 1 0 67h 1 j,0 1 0 68b 1 j,
  0 1 0 68n 1 j,0 1 0 68u 1 j,0 1 0 69r 1 j,0 1 0 6ac 1 j,0 1 0 6aq 1 j,0 1 0 6be 1 j,
  0 1 0 6bn 1 o,0 1 0 6br 1 j,0 1 0 6c0 1 j,0 1 0 6c7 1 j,0 1 0 624 1 7,0 1 0 62i 1 7,
  0 1 0 62t 1 7,0 1 0 633 1 7,0 1 0 63h 1 7,0 1 0 644 1 7,0 1 0 64d 1 7,0 1 0 64s 1 7,
  0 1 0 654 1 7,0 1 0 65h 1 7,0 1 0 65o 1 7,0 1 0 65z 1 7,0 1 0 66q 1 7,0 1 0 66z 1 7,
  0 1 0 67h 1 7,0 1 0 68b 1 7,0 1 0 68n 1 7,0 1 0 68u 1 7,0 1 0 69r 1 7,0 1 0 6ac 1 7,
  0 1 0 6aq 1 7,0 1 0 6be 1 7,0 1 0 6bn 1 9,0 1 0 6br 1 7,0 1 0 6c0 1 7,0 1 0 6c7 1 7,
  0 1 0 624 1 j,0 1 0 62i 1 j,0 1 0 62t 1 j,0 1 0 633 1 j,0 1 0 63h 1 j,0 1 0 644 1 j,
  0 1 0 64d 1 j,0 1 0 64s 1 j,0 1 0 654 1 j,0 1 0 65h 1 j,0 1 0 65o 1 j,0 1 0 65z 1 j,
  0 1 0 66q 1 j,0 1 0 66z 1 j,0 1 0 67h 1 j,0 1 0 68b 1 j,0 1 0 68n 1 j,0 1 0 68u 1 j,
  0 1 0 69r 1 j,0 1 0 6ac 1 j,0 1 0 6aq 1 j,0 1 0 6be 1 j,0 1 0 6bn 1 o,0 1 0 6br 1 j,
  0 1 0 6c0 1 j,0 1 0 6c7 1 j,0 1 0 624 1 7,0 1 0 62i 1 7,0 1 0 62t 1 7,0 1 0 633 1 7,
  0 1 0 63h 1 7,0 1 0 644 1 7,0 1 0 64d 1 7,1 1 0 654 1 7,0 1 0 65h 1 7,0 1 0 65o 1 7,
  0 1 0 65z 1 7,0 1 0 66q 1 7,0 1 0 66z 1 7,0 1 0 67h 1 7,0 1 0 68b 1 7,0 1 0 68n 1 7,
  0 1 0 68u 1 7,0 1 0 69r 1 7,0 1 0 6ac 1 7,0 1 0 6aq 1 7,0 1 0 6be 1 7,0 1 0 6bn 1 9,
  0 1 0 6br 1 7,0 1 0 6c0 1 7,0 1 0 6c7 1 7,0 1 0 624 1 j,0 1 0 62i 1 j,0 1 0 62t 1 j,
  0 1 0 633 1 j,0 1 0 63h 1 j,0 1 0 644 1 j,0 1 0 64d 1 j,0 1 0 64s 1 j,0 1 0 654 1 j,
  0 1 0 65h 1 j,0 1 0 65o 1 j,0 1 0 65z 1 j,0 1 0 66q 1 j,0 1 0 66z 1 j,0 1 0 67h 1 j,
  0 1 0 68b 1 j,0 1 0 68n 1 j,0 1 0 68u 1 j,0 1 0 69r 1 j,0 1 0 6ac 1 j,0 1 0 6aq 1 j,
  0 1 0 6be 1 j,0 1 0 6bn 1 o,0 1 0 6br 1 j,0 1 0 6c0 1 j,0 1 0 6c7 1 j,0 1 0 624 1 7,
  0 1 0 62i 1 7,0 1 0 62t 1 7,0 1 0 633 1 7,0 1 0 63h 1 7,0 1 0 644 1 7,0 1 0 64d 1 7,
  0 1 0 64s 1 7,0 1 0 654 1 7,0 1 0 65h 1 7,0 1 0 65o 1 7,0 1 0 65z 1 7,0 1 0 66q 1 7,
  0 1 0 66z 1 7,0 1 0 67h 1 7,0 1 0 68b 1 7,0 1 0 68n 1 7,0 1 0 68u 1 7,0 1 0 69r 1 7,
  0 1 0 6ac 1 7,0 1 0 6aq 1 7,0 1 0 6be 1 7,0 1 0 6bn 1 9,0 1 0 6br 1 7,0 1 0 6c0 1 7,
  0 1 0 6c7 1 7,0 1 0 624 1 j,1 1 0 62t 1 j,0 1 0 633 1 j,2 1 0 64d 1 j,2 1 0 65h 1 j,
  0 1 0 65o 1 j,2 1 0 66z 1 j,0 1 0 67h 1 j,0 1 0 68b 1 j,0 1 0 68n 1 j,1 1 0 69r 1 j,
  0 1 0 6ac 1 j,0 1 0 6aq 1 j,0 1 0 6be 1 j,0 1 0 6bn 1 o,0 1 0 6br 1 j,0 1 0 6c0 1 j,
  0 1 0 6c7 1 j,0 1 0 624 1 7,0 1 0 62i 1 7,0 1 0 62t 1 7,0 1 0 633 1 7,1 1 0 644 1 7,
  1 1 0 64s 1 7,0 1 0 654 1 7,0 1 0 65h 1 7,0 1 0 65o 1 7,0 1 0 65z 1 7,0 1 0 66q 1 7,
  0 1 0 66z 1 7,1 1 0 68b 1 7,0 1 0 68n 1 7,0 1 0 68u 1 7,0 1 0 69r 1 7,0 1 0 6ac 1 7,
  0 1 0 6aq 1 7,0 1 0 6be 1 7,0 1 0 6bn 1 9,0 1 0 6br 1 7,0 1 0 6c0 1 7,0 1 0 6c7 1 7,
  0 1 0 624 1 j,0 1 0 62i 1 j,0 1 0 62t 1 j,0 1 0 633 1 j,0 1 0 63h 1 j,0 1 0 644 1 j,
  0 1 0 64d 1 j,0 1 0 64s 1 j,0 1 0 654 1 j,0 1 0 65h 1 j,0 1 0 65o 1 j,0 1 0 65z 1 j,
  0 1 0 66q 1 j,0 1 0 66z 1 j,0 1 0 67h 1 j,0 1 0 68b 1 j,0 1 0 68n 1 j,0 1 0 68u 1 j,
  0 1 0 69r 1 j,0 1 0 6ac 1 j,0 1 0 6aq 1 j,0 1 0 6be 1 j,0 1 0 6bn 1 o,0 1 0 6br 1 j,
  0 1 0 6c0 1 j,0 1 0 6c7 1 j,0 1 0 624 1 7,0 1 0 62i 1 7,0 1 0 62t 1 7,0 1 0 633 1 7,
  0 1 0 63h 1 7,0 1 0 644 1 7,0 1 0 64d 1 7,0 1 0 64s 1 7,0 1 0 654 1 7,0 1 0 65h 1 7,
  0 1 0 65o 1 7,0 1 0 65z 1 7,0 1 0 66q 1 7,0 1 0 66z 1 7,0 1 0 67h 1 7,0 1 0 68b 1 7,
  0 1 0 68n 1 7,0 1 0 68u 1 7,0 1 0 69r 1 7,0 1 0 6ac 1 7,0 1 0 6aq 1 7,0 1 0 6be 1 7,
  0 1 0 6bn 1 9,0 1 0 6br 1 7,0 1 0 6c0 1 7,0 1 0 6c7 1 7,0 1 0 624 1 j,0 1 0 62i 1 j,
  1 1 0 633 1 j,0 1 0 63h 1 j,0 1 0 644 1 j,0 1 0 64d 1 j,2 1 0 65h 1 j,0 1 0 65o 1 j,
  0 1 0 65z 1 j,0 1 0 66q 1 j,0 1 0 66z 1 j,0 1 0 67h 1 j,0 1 0 68b 1 j,0 1 0 68n 1 j,
  1 1 0 69r 1 j,0 1 0 6ac 1 j,0 1 0 6aq 1 j,0 1 0 6be 1 j,0 1 0 6bn 1 o,0 1 0 6br 1 j,
  0 1 0 6c0 1 j,1 1 0 624 1 7,0 1 0 62i 1 7,0 1 0 62t 1 7,0 1 0 633 1 7,0 1 0 63h 1 7,
  0 1 0 644 1 7,0 1 0 64d 1 7,0 1 0 64s 1 7,0 1 0 654 1 7,0 1 0 65h 1 7,0 1 0 65o 1 7,
  0 1 0 65z 1 7,0 1 0 66q 1 7,0 1 0 66z 1 7,0 1 0 67h 1 7,0 1 0 68b 1 7,0 1 0 68n 1 7,
  0 1 0 68u 1 7,0 1 0 69r 1 7,0 1 0 6ac 1 7,0 1 0 6aq 1 7,0 1 0 6be 1 7,0 1 0 6bn 1 9,
  0 1 0 6br 1 7,0 1 0 6c0 1 7,0 1 0 6c7 1 7,0 1 0 624 1 j,0 1 0 62i 1 j,1 1 0 633 1 j,
  0 1 0 63h 1 j,0 1 0 644 1 j,0 1 0 64d 1 j,1 1 0 654 1 j,0 1 0 65h 1 j,0 1 0 65o 1 j,
  0 1 0 65z 1 j,0 1 0 66q 1 j,1 1 0 67h 1 j,3 1 0 69r 1 j,0 1 0 6ac 1 j,0 1 0 6aq 1 j,
  0 1 0 6be 1 j,0 1 0 6bn 1 o,0 1 0 6br 1 j,0 1 0 6c0 1 j,1 1 0 624 1 7,0 1 0 62i 1 7,
  0 1 0 62t 1 7,0 1 0 633 1 7,0 1 0 63h 1 7,0 1 0 644 1 7,0 1 0 64d 1 7,0 1 0 64s 1 7,
  0 1 0 654 1 7,0 1 0 65h 1 7,0 1 0 65o 1 7,0 1 0 65z 1 7,0 1 0 66q 1 7,0 1 0 66z 1 7,
  0 1 0 67h 1 7,0 1 0 68b 1 7,0 1 0 68n 1 7,0 1 0 68u 1 7,0 1 0 69r 1 7,0 1 0 6ac 1 7,
  0 1 0 6aq 1 7,0 1 0 6be 1 7,0 1 0 6bn 1 9,0 1 0 6br 1 7,0 1 0 6c0 1 7,0 1 0 6c7 1 7,
  0 1 0 624 1 j,0 1 0 62i 1 j,0 1 0 62t 1 j,0 1 0 633 1 j,0 1 0 63h 1 j,0 1 0 644 1 j,
  0 1 0 64d 1 j,0 1 0 64s 1 j,0 1 0 654 1 j,0 1 0 65h 1 j,0 1 0 65o 1 j,0 1 0 65z 1 j,
  0 1 0 66q 1 j,0 1 0 66z 1 j,0 1 0 67h 1 j,0 1 0 68b 1 j,0 1 0 68n 1 j,0 1 0 68u 1 j,
  0 1 0 69r 1 j,0 1 0 6ac 1 j,0 1 0 6aq 1 j,0 1 0 6be 1 j,0 1 0 6bn 1 o,0 1 0 6br 1 j,
  0 1 0 6c0 1 j,0 1 0 6c7 1 j,0 1 0 624 1 7,0 1 0 62i 1 7,0 1 0 62t 1 7,0 1 0 633 1 7,
  0 1 0 63h 1 7,0 1 0 644 1 7,0 1 0 64d 1 7,0 1 0 64s 1 7,0 1 0 654 1 7,0 1 0 65h 1 7,
  0 1 0 65o 1 7,0 1 0 65z 1 7,0 1 0 66q 1 7,0 1 0 66z 1 7,0 1 0 67h 1 7,0 1 0 68b 1 7,
  0 1 0 68n 1 7,0 1 0 68u 1 7,0 1 0 69r 1 7,0 1 0 6ac 1 7,0 1 0 6aq 1 7,0 1 0 6be 1 7,
  0 1 0 6bn 1 9,0 1 0 6br 1 7,0 1 0 6c0 1 7,0 1 0 6c7 1 7,0 1 0 624 1 j,0 1 0 62i 1 j,
  0 1 0 62t 1 j,0 1 0 633 1 j,0 1 0 63h 1 j,0 1 0 644 1 j,0 1 0 64d 1 j,0 1 0 64s 1 j,
  0 1 0 654 1 j,0 1 0 65h 1 j,0 1 0 65o 1 j,0 1 0 65z 1 j,0 1 0 66q 1 j,0 1 0 66z 1 j,
  0 1 0 67h 1 j,0 1 0 68b 1 j,0 1 0 68n 1 j,0 1 0 68u 1 j,0 1 0 69r 1 j,0 1 0 6ac 1 j,
  0 1 0 6aq 1 j,0 1 0 6be 1 j,0 1 0 6bn 1 o,0 1 0 6br 1 j,0 1 0 6c0 1 j,0 1 0 6c7 1 j,
  0 1 0 624 1 7,0 1 0 62i 1 7,0 1 0 62t 1 7,0 1 0 633 1 7,0 1 0 63h 1 7,0 1 0 644 1 7,
  0 1 0 64d 1 7,0 1 0 64s 1 7,0 1 0 654 1 7,0 1 0 65h 1 7,0 1 0 65o 1 7,0 1 0 65z 1 7,
  0 1 0 66q 1 7,0 1 0 66z 1 7,0 1 0 67h 1 7,0 1 0 68b 1 7,0 1 0 68n 1 7,0 1 0 68u 1 7,
  0 1 0 69r 1 7,0 1 0 6ac 1 7,0 1 0 6aq 1 7,0 1 0 6be 1 7,0 1 0 6bn 1 9,0 1 0 6br 1 7,
  0 1 0 6c0 1 7,0 1 0 6c7 1 7,0 1 0 624 1 j,0 1 0 62i 1 j,0 1 0 62t 1 j,0 1 0 633 1 j,
  0 1 0 63h 1 j,0 1 0 644 1 j,0 1 0 64d 1 j,0 1 0 64s 1 j,0 1 0 654 1 j,0 1 0 65h 1 j,
  0 1 0 65o 1 j,0 1 0 65z 1 j,0 1 0 66q 1 j,0 1 0 66z 1 j,0 1 0 67h 1 j,0 1 0 68b 1 j,
  0 1 0 68n 1 j,0 1 0 68u 1 j,0 1 0 69r 1 j,0 1 0 6ac 1 j,0 1 0 6aq 1 j,0 1 0 6be 1 j,
  0 1 0 6bn 1 o,0 1 0 6br 1 j,0 1 0 6c0 1 j,0 1 0 6c7 1 j,0 1 0 624 1 7,0 1 0 62i 1 7,
  0 1 0 62t 1 7,0 1 0 633 1 7,0 1 0 63h 1 7,0 1 0 644 1 7,0 1 0 64d 1 7,0 1 0 64s 1 7,
  0 1 0 654 1 7,0 1 0 65h 1 7,0 1 0 65o 1 7,0 1 0 65z 1 7,0 1 0 66q 1 7,0 1 0 66z 1 7,
  0 1 0 67h 1 7,0 1 0 68b 1 7,0 1 0 68n 1 7,0 1 0 68u 1 7,0 1 0 69r 1 7,0 1 0 6ac 1 7,
  0 1 0 6aq 1 7,0 1 0 6be 1 7,0 1 0 6bn 1 9,0 1 0 6br 1 7,0 1 0 6c0 1 7,0 1 0 6c7 1 7,
  0 1 0 624 1 j,0 1 0 62i 1 j,0 1 0 62t 1 j,0 1 0 633 1 j,0 1 0 63h 1 j,0 1 0 644 1 j,
  0 1 0 64d 1 j,0 1 0 64s 1 j,0 1 0 654 1 j,0 1 0 65h 1 j,0 1 0 65o 1 j,0 1 0 65z 1 j,
  0 1 0 66q 1 j,0 1 0 66z 1 j,0 1 0 67h 1 j,0 1 0 68b 1 j,0 1 0 68n 1 j,0 1 0 68u 1 j,
  0 1 0 69r 1 j,0 1 0 6ac 1 j,0 1 0 6aq 1 j,0 1 0 6be 1 j,0 1 0 6bn 1 o,0 1 0 6br 1 j,
  0 1 0 6c0 1 j,0 1 0 6c7 1 j,0 1 0 624 1 7,0 1 0 62i 1 7,0 1 0 62t 1 7,0 1 0 633 1 7,
  0 1 0 63h 1 7,0 1 0 644 1 7,0 1 0 64d 1 7,0 1 0 64s 1 7,0 1 0 654 1 7,0 1 0 65h 1 7,
  0 1 0 65o 1 7,0 1 0 65z 1 7,0 1 0 66q 1 7,0 1 0 66z 1 7,0 1 0 67h 1 7,0 1 0 68b 1 7,
  0 1 0 68n 1 7,0 1 0 68u 1 7,0 1 0 69r 1 7,0 1 0 6ac 1 7,0 1 0 6aq 1 7,0 1 0 6be 1 7,
  0 1 0 6bn 1 9,0 1 0 6br 1 7,0 1 0 6c0 1 7,0 1 0 6c7 1 7,0 1 0 624 1 j,0 1 0 62i 1 j,
  0 1 0 62t 1 j,0 1 0 633 1 j,0 1 0 63h 1 j,0 1 0 644 1 j,0 1 0 64d 1 j,0 1 0 64s 1 j,
  0 1 0 654 1 j,0 1 0 65h 1 j,0 1 0 65o 1 j,0 1 0 65z 1 j,0 1 0 66q 1 j,0 1 0 66z 1 j,
  0 1 0 67h 1 j,0 1 0 68b 1 j,0 1 0 68n 1 j,0 1 0 68u 1 j,0 1 0 69r 1 j,0 1 0 6ac 1 j,
  0 1 0 6aq 1 j,0 1 0 6be 1 j,0 1 0 6bn 1 o,0 1 0 6br 1 j,0 1 0 6c0 1 j,0 1 0 6c7 1 j,
  0 1 0 624 1 7,0 1 0 62i 1 7,0 1 0 62t 1 7,0 1 0 633 1 7,0 1 0 63h 1 7,0 1 0 644 1 7,
  0 1 0 64d 1 7,0 1 0 64s 1 7,0 1 0 654 1 7,0 1 0 65h 1 7,0 1 0 65o 1 7,0 1 0 65z 1 7,
  0 1 0 66q 1 7,0 1 0 66z 1 7,0 1 0 67h 1 7,0 1 0 68b 1 7,0 1 0 68n 1 7,0 1 0 68u 1 7,
  0 1 0 69r 1 7,0 1 0 6ac 1 7,0 1 0 6aq 1 7,0 1 0 6be 1 7,0 1 0 6bn 1 9,0 1 0 6br 1 7,
  0 1 0 6c0 1 7,0 1 0 6c7 1 7,0 1 0 624 1 j,0 1 0 62i 1 j,0 1 0 62t 1 j,0 1 0 633 1 j,
  0 1 0 63h 1 j,0 1 0 644 1 j,0 1 0 64d 1 j,0 1 0 64s 1 j,0 1 0 654 1 j,0 1 0 65h 1 j,
  0 1 0 65o 1 j,0 1 0 65z 1 j,0 1 0 66q 1 j,0 1 0 66z 1 j,0 1 0 67h 1 j,0 1 0 68b 1 j,
  0 1 0 68n 1 j,0 1 0 68u 1 j,0 1 0 69r 1 j,0 1 0 6ac 1 j,0 1 0 6aq 1 j,0 1 0 6be 1 j,
  0 1 0 6bn 1 o,0 1 0 6br 1 j,0 1 0 6c0 1 j,0 1 0 6c7 1 j,0 1 0 624 1 7,0 1 0 62i 1 7,
  0 1 0 62t 1 7,0 1 0 633 1 7,0 1 0 63h 1 7,0 1 0 644 1 7,0 1 0 64d 1 7,0 1 0 64s 1 7,
  0 1 0 654 1 7,0 1 0 65h 1 7,0 1 0 65o 1 7,0 1 0 65z 1 7,0 1 0 66q 1 7,0 1 0 66z 1 7,
  0 1 0 67h 1 7,0 1 0 68b 1 7,0 1 0 68n 1 7,0 1 0 68u 1 7,0 1 0 69r 1 7,0 1 0 6ac 1 7,
  0 1 0 6aq 1 7,0 1 0 6be 1 7,0 1 0 6bn 1 9,0 1 0 6br 1 7,0 1 0 6c0 1 7,0 1 0 6c7 1 7,
  0 1 0 655 1 g,0 1 0 65i 1 g,2 1 0 6e3 1 r,0 1 0 6e4 1 j,0 1 0 6e5 1 g,0 1 0 6e7 1 k,
  0 1 0 6e8 1 r,0 1 0 6ec 1 o,0 2 1 6ee 1 o,0 1 0 6eg 1 r,0 1 0 6ei 1 q,0 1 0 6ej 1 o,
  0 1 0 6el 1 l,0 3 1 6em 1 o,0 1 0 6ep 1 r,0 1 0 6eu 1 l,0 1 0 6ef 1 o,0 1 0 6ex 1 o,
  0 1 0 6f1 1 o,0 1 0 6f2 1 r,0 1 0 6f3 1 j,0 1 0 6f4 1 g,0 1 0 6f5 1 o,0 1 0 6f7 1 k,
  0 1 0 wu 1 g,0 1 0 6e3 1 c,0 1 0 6e4 1 8,0 1 0 6e5 1 3,0 1 0 6e7 1 3,0 1 0 6e8 1 c,
  0 1 0 6ec 1 3,0 1 0 6ee 1 3,0 1 0 6ef 1 8,0 1 0 6eg 1 c,0 1 0 6ei 1 9,0 1 0 6ej 1 3,
  0 1 0 6el 1 9,0 3 1 6em 1 3,0 1 0 6ep 1 c,0 1 0 6eu 1 9,0 2 0 6ex 1 8,0 2 1 6f1 1 3,
  0 1 0 6f3 1 8,0 2 1 6f4 1 3,0 1 0 6f7 1 3,0 1 0 wq 1 g,0 1 0 6e8 1 c,0 1 0 6ef 1 8,
  0 1 0 6ei 1 9,0 1 0 6f3 1 8,0 1 0 6eu 1 9,0 1 0 6ep 1 c,0 1 0 6e3 1 r,0 1 0 6e4 1 j,
  0 1 0 6e5 1 g,0 1 0 6e7 1 k,0 1 0 6e8 1 r,0 1 0 6ec 1 o,0 2 1 6ee 1 o,0 1 0 6eg 1 r,
  0 1 0 6ei 1 q,0 1 0 6ej 1 o,0 1 0 6el 1 l,0 3 1 6em 1 o,0 1 0 6ep 1 r,0 1 0 6eu 1 l,
  0 1 0 6ef 1 o,0 1 0 6ex 1 o,0 1 0 6f1 1 o,0 1 0 6f2 1 r,0 1 0 6f3 1 j,0 1 0 6f4 1 g,
  0 1 0 6f5 1 o,0 1 0 6f7 1 k,0 1 0 wu 1 g,0 1 0 6e3 1 c,0 1 0 6e4 1 8,0 1 0 6e5 1 3,
  0 1 0 6e7 1 3,0 1 0 6e8 1 c,0 1 0 6ec 1 3,0 1 0 6ee 1 3,0 1 0 6ef 1 8,0 1 0 6eg 1 c,
  0 1 0 6ei 1 9,0 1 0 6ej 1 3,0 1 0 6el 1 9,0 3 1 6em 1 3,0 1 0 6ep 1 c,0 1 0 6eu 1 9,
  0 2 0 6ex 1 8,0 2 1 6f1 1 3,0 1 0 6f3 1 8,0 2 1 6f4 1 3,0 1 0 6f7 1 3,0 1 0 wq 1 g,
  0 1 0 6e8 1 c,0 1 0 6ef 1 8,0 1 0 6ei 1 9,0 1 0 6f3 1 8,0 1 0 6eu 1 9,0 1 0 6ep 1 c,
  0 1 0 6e3 1 r,0 1 0 6e4 1 j,0 1 0 6e5 1 g,0 1 0 6e7 1 k,0 1 0 6e8 1 r,0 1 0 6ec 1 o,
  0 2 1 6ee 1 o,0 1 0 6eg 1 r,0 1 0 6ei 1 q,0 1 0 6ej 1 o,0 1 0 6el 1 l,0 3 1 6em 1 o,
  0 1 0 6ep 1 r,0 1 0 6eu 1 l,0 1 0 6ef 1 o,0 1 0 6ex 1 o,0 1 0 6f1 1 o,0 1 0 6f2 1 r,
  0 1 0 6f3 1 j,0 1 0 6f4 1 g,0 1 0 6f5 1 o,0 1 0 6f7 1 k,0 1 0 wu 1 g,0 1 0 6e3 1 c,
  0 1 0 6e4 1 8,0 1 0 6e5 1 3,0 1 0 6e7 1 3,0 1 0 6e8 1 c,0 1 0 6ec 1 3,0 1 0 6ee 1 3,
  0 1 0 6ef 1 8,0 1 0 6eg 1 c,0 1 0 6ei 1 9,0 1 0 6ej 1 3,0 1 0 6el 1 9,0 3 1 6em 1 3,
  0 1 0 6ep 1 c,0 1 0 6eu 1 9,0 2 0 6ex 1 8,0 2 1 6f1 1 3,0 1 0 6f3 1 8,0 2 1 6f4 1 3,
  0 1 0 6f7 1 3,0 1 0 wq 1 g,0 1 0 6e8 1 c,0 1 0 6ef 1 8,0 1 0 6ei 1 9,0 1 0 6f3 1 8,
  0 1 0 6eu 1 9,0 1 0 6ep 1 c,0 1 0 6e3 1 r,0 1 0 6e4 1 j,0 1 0 6e5 1 g,0 1 0 6e7 1 k,
  0 1 0 6e8 1 r,0 1 0 6ec 1 o,0 2 1 6ee 1 o,0 1 0 6eg 1 r,0 1 0 6ei 1 q,0 1 0 6ej 1 o,
  0 1 0 6el 1 l,0 3 1 6em 1 o,0 1 0 6ep 1 r,0 1 0 6eu 1 l,0 1 0 6ef 1 o,0 1 0 6ex 1 o,
  0 1 0 6f1 1 o,0 1 0 6f2 1 r,0 1 0 6f3 1 j,0 1 0 6f4 1 g,0 1 0 6f5 1 o,0 1 0 6f7 1 k,
  0 1 0 wu 1 g,0 1 0 6e3 1 c,0 1 0 6e4 1 8,0 1 0 6e5 1 3,0 1 0 6e7 1 3,0 1 0 6e8 1 c,
  0 1 0 6ec 1 3,0 1 0 6ee 1 3,0 1 0 6ef 1 8,0 1 0 6eg 1 c,0 1 0 6ei 1 9,0 1 0 6ej 1 3,
  0 1 0 6el 1 9,0 3 1 6em 1 3,0 1 0 6ep 1 c,0 1 0 6eu 1 9,0 2 0 6ex 1 8,0 2 1 6f1 1 3,
  0 1 0 6f3 1 8,0 2 1 6f4 1 3,0 1 0 6f7 1 3,0 1 0 wq 1 g,0 1 0 6e8 1 c,0 1 0 6ef 1 8,
  0 1 0 6ei 1 9,0 1 0 6f3 1 8,0 1 0 6eu 1 9,0 1 0 6ep 1 c,0 1 0 6e3 1 r,0 1 0 6e4 1 j,
  0 1 0 6e5 1 g,0 1 0 6e7 1 k,0 1 0 6e8 1 r,0 1 0 6ec 1 o,0 2 1 6ee 1 o,0 1 0 6eg 1 r,
  0 1 0 6ei 1 q,0 1 0 6ej 1 o,0 1 0 6el 1 l,0 3 1 6em 1 o,0 1 0 6ep 1 r,0 1 0 6eu 1 l,
  0 1 0 6ef 1 o,0 1 0 6ex 1 o,0 1 0 6f1 1 o,0 1 0 6f2 1 r,0 1 0 6f3 1 j,0 1 0 6f4 1 g,
  0 1 0 6f5 1 o,0 1 0 6f7 1 k,0 1 0 wu 1 g,0 1 0 6e3 1 c,0 1 0 6e4 1 8,0 1 0 6e5 1 3,
  0 1 0 6e7 1 3,0 1 0 6e8 1 c,0 1 0 6ec 1 3,0 1 0 6ee 1 3,0 1 0 6ef 1 8,0 1 0 6eg 1 c,
  0 1 0 6ei 1 9,0 1 0 6ej 1 3,0 1 0 6el 1 9,0 3 1 6em 1 3,0 1 0 6ep 1 c,0 1 0 6eu 1 9,
  0 2 0 6ex 1 8,0 2 1 6f1 1 3,0 1 0 6f3 1 8,0 2 1 6f4 1 3,0 1 0 6f7 1 3,0 1 0 wq 1 g,
  0 1 0 6e8 1 c,0 1 0 6ef 1 8,0 1 0 6ei 1 9,0 1 0 6f3 1 8,0 1 0 6eu 1 9,0 1 0 6ep 1 c,
  0 1 0 6e9 1 o,0 1 0 6e9 1 3,2 9 1 61u 1 b,0 1 0 623 1 d,0 9 1 61u 1 b,0 1 0 623 1 d,
  0 9 1 61u 1 b,0 1 0 623 1 d,0 9 1 61u 1 b,0 1 0 623 1 d,0 9 1 61u 1 b,0 1 0 623 1 d,
  0 e8 1 54p 1 2,0 1j 0 0 0 0,0 4 1 5ix 1 2,0 1e 0 0 0 0,0 8 1 5j1 1 2,0 1 0 0 0 0,
  0 e 1 5j9 1 2,0 1 0 0 0 0,0 2 1 5jn 1 2,0 5 1 jz 1 2,f 5 0 0 0 0,1 f 0 0 0 0,
  uo 1 0 644 8 2 67d 1 3,0 1 0 64g 1 2,0 1 0 64o 1 2,0 1 0 65w 1 2,0 1 0 66a 1 2,0 1 0 66l 1 2,
  0 1 0 66p 1 2,0 1 0 67g 1 2,0 1 0 694 1 2,0 1 0 6al 1 2,0 1 0 6dx 1 2,0 2 1 6aa 1 2,
  0 1 0 6ap 1 2,0 1 0 6ds 1 2,0 1 0 6dz 1 2,0 1 0 65y 1 2,0 1 0 66h 1 2,0 1 0 633 1 4 6cl 1 g,
  0 1 0 66b 1 2,0 1 0 67f 1 2,0 1 0 69n 1 2,0 1 0 69e 1 2,0 1 0 6ac 1 4 6a5 1 g,0 1 0 6cl 1 2,
  0 1 0 633 1 4 6cm 1 g,0 1 0 65c 1 2,0 1 0 67u 1 2,0 1 0 6ac 1 4 6a6 1 g,0 1 0 62y 1 2,
  0 1 0 69y 1 2,6 1 0 63b 1 2,0 1 0 66f 1 2,0 1 0 679 1 2,0 1 0 69a 1 2,0 1 0 69x 1 2,
  0 1 0 6ak 1 2,5x 7 1 6ld 1 g,1 h 1 6ll 1 g,2 7 1 6m4 1 g,1 2 1 6mc 1 g,1 5 1 6mf 1 g,
  5 1 0 6h0 1 k,0 3 1 6h3 1 k,0 1 0 6ha 1 k,0 1 0 6hh 1 k,0 1 0 6hj 1 k,0 1 0 6hn 1 k,
  0 1 0 6hy 1 k,0 1 0 6i5 1 k,0 1 0 6id 1 k,0 1 0 6in 1 o,0 1 0 6iz 1 l,0 1 0 6j1 1 k,
  0 1 0 6j5 1 o,0 1 0 6j8 1 k,0 1 0 6jb 1 o,0 1 0 6jh 1 k,0 2 1 6jm 1 k,0 1 0 6jz 1 k,
  0 1 0 6k4 1 k,0 1 0 6ke 1 k,0 1 0 6km 1 k,0 1 0 6kr 1 p,0 1 0 6ks 1 o,0 1 0 6hv 1 p,
  0 1 0 6h1 1 p,0 1 0 6i0 1 k,0 1 0 6i3 1 p,0 1 0 6j0 1 p,0 1 0 6ji 1 p,0 1 0 6lc 1 p,
  0 1 0 6h0 1 r,0 3 1 6h3 1 r,0 1 0 6ha 1 r,0 1 0 6hh 1 r,0 1 0 6hj 1 r,0 1 0 6hn 1 r,
  0 1 0 6hy 1 r,0 1 0 6i5 1 r,0 1 0 6id 1 r,0 1 0 6iz 1 q,0 1 0 6j1 1 r,0 1 0 6j8 1 r,
  0 1 0 6jh 1 r,0 2 1 6jm 1 r,0 1 0 6jz 1 r,0 1 0 6k4 1 r,0 1 0 6ke 1 r,0 1 0 6kk 1 r,
  0 1 0 6km 1 r,0 1 0 6h5 2 2,0 1 0 6i0 1 r,0 1 0 6hs 1 p,0 1 0 6kd 1 p,0 1 0 6ja 1 p,
  0 1 0 6kl 1 p,0 1 0 6jj 1 p,x 1 0 6i0 1 3,34 19 1 e0x 1 2,3 1 0 0 6g 2,0 1 0 0 6c 2,
  0 1 0 0 6e 2,0 1 0 0 6f 2,0 1 0 0 6h 2,0 1 0 0 6i 2,0 1 0 0 6d 2,0 5 1 e26 1 2,0 2 1 5lw 1 2,
  2 a 1 61u 1 2,4 1 0 e2b 1 2,0 1 0 31h 1 2,8w u 1 e2c 1 2,0 1 0 0 w 2,h 18 1 e36 1 2,
  0 1 0 0 6j 2,0 1 0 0 6k 2,0 1 0 0 6l 2,0 1 0 0 6m 2,0 a 1 61u 1 2,5 1 0 5mu 1 2,
  cw s 1 e4e 1 2,0 1 0 0 6n 2,0 1 0 0 6o 2,0 1 0 0 6p 2,0 1 0 0 6q 2,0 a 1 61u 1 2,
  km 1 0 7i6 1 2,0 1 0 7i8 1 2,0 1 0 7ia 1 2,0 1 0 7ic 1 2,0 1 0 7ie 1 2,0 1 0 7ig 1 2,
  0 1 0 7ii 1 2,1 1 0 7bb 1 2,0 1 0 7bd 1 2,0 1 0 7bg 1 2,0 1 0 7bi 1 2,1 1 0 76c 1 2,
  0 1 0 76e 1 2,1 1 0 77w 1 2,0 1 0 77z 1 2,0 1 0 781 1 2,0 1 0 78o 1 2,0 1 0 78q 1 2,
  0 1 0 7ax 1 2,0 1 0 7b0 1 2,0 1 0 7b2 1 2,0 1 0 7e0 1 2,0 1 0 7e3 1 2,0 1 0 7e5 1 2,
  0 1 0 7gd 1 2,0 1 0 7gf 1 2,0 1 0 7gr 1 2,0 1 0 7gt 1 2,1 5h 1 c21 1 2,2 9 1 61v 1 2,
  0 7 0 0 0 0,15 y 1 c8e 1 g,0 y 1 c8e 1 2,0 3 0 0 4q 2,0 1 0 0 4s 2,0 1 0 0 4t 2,0 1 0 0 4u 2,
  0 1 0 0 4r 2,0 1 0 c9c 1 2,4 a 1 61u 1 2,4 1 0 33 1 2,0 1 0 3j 1 2,lt 9 1 61v 1 2,
  0 15 1 5x4 1 2,0 9 1 61v 1 2,0 1 0 3il 1 2,0 3 1 5y9 1 2,0 1 0 5nj 1 2,0 2 1 61v 2 2,
  0 2 1 5yc 1 2,24 9 1 61v 1 2,0 10 1 5ye 1 2,0 1 0 3im 1 2,0 1 0 61w 2 2,0 1 0 61x 2 g,
  0 6 1 61y 2 2,0 7 1 5ze 1 2,5e 1 0 6tm 1 c,0 1 0 6to 1 3,0 1 0 6uf 1 3,0 1 0 6v1 1 3,
  1 1 0 6yv 1 c,0 1 0 6vh 1 3,0 1 0 6uq 1 3,0 1 0 6wg 1 3,0 1 0 6za 1 8,0 1 0 6xe 1 3,
  0 1 0 6y2 1 3,0 1 0 6ya 1 3,0 1 0 6ye 1 3,0 1 0 6vz 1 3,0 1 0 6wm 1 3,0 1 0 6wv 1 3,
  0 1 0 6wa 1 3,0 1 0 6x7 1 3,0 1 0 6vg 1 3,0 1 0 6w0 1 3,0 2 1 6u5 1 3,0 1 0 6ur 1 3,
  0 1 0 6v2 1 3,0 1 0 6wb 1 3,0 1 0 6wh 1 3,0 1 0 6wn 1 3,0 1 0 6tn 1 g,0 1 0 6yf 1 3,
  0 1 0 6ww 1 g,0 1 0 6x6 1 g,1 1 0 6to 1 3,0 1 0 6uf 1 3,1 1 0 6yp 1 3,2 1 0 6uq 1 3,
  1 1 0 6za 1 8,0 1 0 6xe 1 3,0 1 0 6y2 1 3,0 1 0 6ya 1 3,0 1 0 6ye 1 3,0 1 0 6vz 1 3,
  0 1 0 6wm 1 3,0 1 0 6wv 1 3,0 1 0 6wa 1 3,0 1 0 6x7 1 3,1 1 0 6w0 1 3,0 2 1 6u5 1 3,
  0 1 0 6ur 1 3,1 1 0 6wb 1 3,1 1 0 6wn 1 3,6 1 0 6uf 1 3,4 1 0 6uq 1 3,1 1 0 6za 1 8,
  1 1 0 6y2 1 3,1 1 0 6ye 1 3,0 1 0 6vz 1 3,0 1 0 6wm 1 3,1 1 0 6wa 1 3,0 1 0 6x7 1 3,
  1 1 0 6w0 1 3,2 1 0 6ur 1 3,1 1 0 6wb 1 3,1 1 0 6wn 1 3,1 1 0 6yf 1 3,1 1 0 6x6 1 g,
  1 1 0 6to 1 3,0 1 0 6uf 1 3,1 1 0 6yp 1 3,2 1 0 6uq 1 3,0 1 0 6wg 1 3,0 1 0 6za 1 8,
  0 1 0 6xe 1 3,1 1 0 6ya 1 3,0 1 0 6ye 1 3,0 1 0 6vz 1 3,0 1 0 6wm 1 3,0 1 0 6wv 1 3,
  0 1 0 6wa 1 3,0 1 0 6x7 1 3,1 1 0 6w0 1 3,0 2 1 6u5 1 3,0 1 0 6ur 1 3,1 1 0 6wb 1 3,
  0 1 0 6wh 1 3,0 1 0 6wn 1 3,0 1 0 6tn 1 g,1 1 0 6ww 1 g,1 1 0 6tm 1 c,0 1 0 6to 1 3,
  0 1 0 6uf 1 3,0 1 0 6v1 1 3,0 1 0 6yp 1 3,0 1 0 6yv 1 c,0 1 0 6vh 1 3,0 1 0 6uq 1 3,
  0 1 0 6wg 1 3,0 1 0 6za 1 8,1 1 0 6y2 1 3,0 1 0 6ya 1 3,0 1 0 6ye 1 3,0 1 0 6vz 1 3,
  0 1 0 6wm 1 3,0 1 0 6wv 1 3,0 1 0 6wa 1 3,0 1 0 6x7 1 3,0 1 0 6vg 1 3,0 1 0 6w0 1 3,
  0 2 1 6u5 1 3,0 1 0 6ur 1 3,0 1 0 6v2 1 3,0 1 0 6wb 1 3,0 1 0 6wh 1 3,0 1 0 6wn 1 3,
  5 1 0 6to 1 3,0 1 0 6uf 1 3,0 1 0 6v1 1 3,1 1 0 6yv 1 c,0 1 0 6vh 1 3,0 1 0 6uq 1 3,
  0 1 0 6wg 1 3,0 1 0 6za 1 8,1 1 0 6y2 1 3,0 1 0 6ya 1 3,0 1 0 6ye 1 3,0 1 0 6vz 1 3,
  0 1 0 6wm 1 3,0 1 0 6wv 1 3,0 1 0 6wa 1 3,0 1 0 6x7 1 3,0 1 0 6vg 1 3,0 1 0 6w0 1 3,
  0 2 1 6u5 1 3,0 1 0 6ur 1 3,0 1 0 6v2 1 3,0 1 0 6wb 1 3,0 1 0 6wh 1 3,0 1 0 6wn 1 3,
  1g 2 1 nw 1 2,7i 18 1 3in 1 2,4 2s 1 3jv 1 2,c f 1 3mn 1 2,2 f 1 3n2 1 2,1 f 1 3nh 1 2,
  1 11 1 3nw 1 2,a 1 0 61u 1 6 3m 1 9,0 1 0 61u 1 6 11 1 c,0 1 0 61v 1 6 11 1 c,
  0 1 0 61w 1 6 11 1 c,0 1 0 61x 1 6 11 1 c,0 1 0 61y 1 6 11 1 c,0 1 0 61z 1 6 11 1 c,
  0 1 0 620 1 6 11 1 c,0 1 0 621 1 6 11 1 c,0 1 0 622 1 6 11 1 c,0 1 0 623 1 7 11 1 c,
  0 2 0 61u 1 f,0 3 1 3rn 1 2,0 1 0 8m 1 8 624 1 h 8n 1 8,0 1 0 8m 1 8 62i 1 h 8n 1 8,
  0 1 0 8m 1 8 62t 1 h 8n 1 8,0 1 0 8m 1 8 633 1 h 8n 1 8,0 1 0 8m 1 8 63h 1 h 8n 1 8,
  0 1 0 8m 1 8 644 1 h 8n 1 8,0 1 0 8m 1 8 64d 1 h 8n 1 8,0 1 0 8m 1 8 64s 1 h 8n 1 8,
  0 1 0 8m 1 8 654 1 h 8n 1 8,0 1 0 8m 1 8 65h 1 h 8n 1 8,0 1 0 8m 1 8 65o 1 h 8n 1 8,
  0 1 0 8m 1 8 65z 1 h 8n 1 8,0 1 0 8m 1 8 66q 1 h 8n 1 8,0 1 0 8m 1 8 66z 1 h 8n 1 8,
  0 1 0 8m 1 8 67h 1 h 8n 1 8,0 1 0 8m 1 8 68b 1 h 8n 1 8,0 1 0 8m 1 8 68n 1 h 8n 1 8,
  0 1 0 8m 1 8 68u 1 h 8n 1 8,0 1 0 8m 1 8 69r 1 h 8n 1 8,0 1 0 8m 1 8 6ac 1 h 8n 1 8,
  0 1 0 8m 1 8 6aq 1 h 8n 1 8,0 1 0 8m 1 8 6be 1 h 8n 1 8,0 1 0 8m 1 8 6bn 1 l 8n 1 8,
  0 1 0 8m 1 8 6br 1 h 8n 1 8,0 1 0 8m 1 8 6c0 1 h 8n 1 8,0 1 0 8m 1 8 6c7 1 h 8n 1 8,
  0 1 0 bk 1 3 69r 1 h bl 1 3,0 1 0 62t 1 l,0 1 0 68u 1 l,0 1 0 62t 1 l 633 1 l,
  0 1 0 6bn 1 q 6c7 1 l,0 1 0 t1 1 2,0 1 0 624 1 t,0 1 0 62i 1 r,0 1 0 62t 1 r,0 1 0 633 1 r,
  0 1 0 63h 1 t,0 1 0 644 1 r,0 1 0 64d 1 r,0 1 0 64s 1 t,0 1 0 654 1 t,0 1 0 65h 1 r,
  0 1 0 65o 1 t,0 1 0 65z 1 t,0 1 0 66q 1 t,0 1 0 66z 1 t,0 1 0 67h 1 t,0 1 0 68b 1 t,
  0 1 0 68n 1 r,0 1 0 68u 1 t,0 1 0 69r 1 t,0 1 0 6ac 1 t,0 1 0 6aq 1 r,0 1 0 6be 1 t,
  0 1 0 6bn 1 u,0 1 0 6br 1 t,0 1 0 6c0 1 r,0 1 0 6c7 1 r,0 1 0 64s 1 t 6be 1 t,
  0 1 0 66q 1 t 6be 1 t,0 1 0 69r 1 t 633 1 r,0 1 0 69r 1 t 69r 1 t,
  0 1 0 68b 1 t 68b 1 t 6be 1 t,0 1 0 6bn 1 u 62t 1 r,0 1 0 624 1 l,0 1 0 62i 1 l,
  0 1 0 62t 1 l,0 1 0 633 1 l,0 1 0 63h 1 l,0 1 0 644 1 l,0 1 0 64d 1 l,0 1 0 64s 1 l,
  0 1 0 654 1 l,0 1 0 65h 1 l,0 1 0 65o 1 l,0 1 0 65z 1 l,0 1 0 66q 1 l,0 1 0 66z 1 l,
  0 1 0 67h 1 l,0 1 0 68b 1 l,0 1 0 68n 1 l,0 1 0 68u 1 l,0 1 0 69r 1 l,0 1 0 6ac 1 l,
  0 1 0 6aq 1 l,0 1 0 6be 1 l,0 1 0 6bn 1 q,0 1 0 6br 1 l,0 1 0 6c0 1 l,0 1 0 6c7 1 l,
  0 1 0 66q 1 n 62t 1 n,0 1 0 66q 1 n 633 1 n,0 1 0 66q 1 n 68u 1 n,0 3 1 3rq 1 2,
  0 1 0 624 1 t,0 1 0 62i 1 r,0 1 0 62t 1 r,0 1 0 633 1 r,0 1 0 63h 1 t,0 1 0 644 1 r,
  0 1 0 64d 1 r,0 1 0 64s 1 t,0 1 0 654 1 t,0 1 0 65h 1 r,0 1 0 65o 1 t,0 1 0 65z 1 t,
  0 1 0 66q 1 t,0 1 0 66z 1 t,0 1 0 67h 1 t,0 1 0 68b 1 t,0 1 0 68n 1 r,0 1 0 68u 1 t,
  0 1 0 69r 1 t,0 1 0 6ac 1 t,0 1 0 6aq 1 r,0 1 0 6be 1 t,0 1 0 6bn 1 u,0 1 0 6br 1 t,
  0 1 0 6c0 1 r,0 1 0 6c7 1 r,0 1 0 68b 1 t,0 1 0 654 1 t 62t 1 r,0 1 0 68b 1 t 624 1 t,
  0 1 0 69r 1 t 624 1 t,0 1 0 624 1 t 62i 1 r,0 1 0 6bn 1 u 62t 1 r,0 1 0 633 1 r 65h 1 r,
  0 1 0 62t 1 r 65z 1 t,0 1 0 62t 1 r 67h 1 t 67h 1 t 65z 1 t,
  0 1 0 644 1 r 68u 1 t 63h 1 t 63h 1 t,0 1 0 654 1 t 633 1 r,0 1 0 66z 1 t 63h 1 t 6bn 1 u,
  0 1 0 66z 1 t 64d 1 r,0 1 0 67h 1 t 65o 1 t,0 1 0 69r 1 t 67h 1 t 69r 1 t,
  0 1 0 6aq 1 r 68b 1 t 2x 1 q,0 1 0 6be 1 t 69r 1 t,0 1 0 61x 1 p 633 1 r,
  0 1 0 61w 1 p 66z 1 r 633 1 p a 1 q 69r 1 t 62t 1 p 68u 1 r,0 1 0 61w 1 p 65o 1 t,
  0 1 0 61y 1 p 65o 1 t,0 1 0 622 1 p 65o 1 t,0 1 0 61z 1 p 3m 1 q 61v 1 p,
  0 1 0 621 1 p 3m 1 q 61v 1 p,0 1 0 61w 1 p 61w 1 p 3m 1 q 61w 1 p,
  0 1 0 620 1 p 61u 1 p 68b 1 t,0 1 0 61v 1 p 61w 1 p 61u 1 p 68b 1 t,0 1 0 633 1 p,
  0 1 0 64s 1 t 62t 1 p,0 1 0 64s 1 t 633 1 p 68u 1 t,
  0 1 0 64s 1 t 654 1 r a 1 q 68u 1 t 63h 1 r 69r 1 r,
  0 1 0 65z 1 t 67h 1 r 69r 1 r 69r 1 r 65z 1 r 63h 1 r 69r 1 r 69r 1 r,
  0 1 0 69r 1 t 64s 1 t 6be 1 t,0 1 0 6aq 1 r 64s 1 t 633 1 r,0 1 0 6be 1 t 67h 1 t 633 1 r,
  0 1 0 t3 1 2,1k q 1 1us 1 2,0 1 0 ck4 1 q cjg 1 q,0 1 0 cjk 1 s cjk 1 s,0 1 0 cjl 1 r,
  d 1 0 1xzf 1 r,0 1 0 1wlz 1 r,0 1 0 1v4c 1 r,0 1 0 cjt 1 r 0 10 p,0 1 0 1u30 1 r,
  0 1 0 1w62 1 r,0 1 0 25sz 1 r,0 1 0 1w6h 1 r,0 1 0 1u3o 1 r,0 1 0 1yqo 1 r,0 1 0 20wx 1 r,
  0 1 0 1ymx 1 r,0 1 0 1utp 1 r,0 1 0 1xfw 1 r,0 1 0 1uod 1 r,0 1 0 1ynk 1 r,0 1 0 1usd 1 r,
  0 1 0 23b6 1 r,0 1 0 21pb 1 r,0 1 0 26cp 1 r,0 1 0 1w4w 1 r,0 1 0 1v7d 1 r,0 1 0 20ic 1 r,
  0 1 0 1y1h 1 r,0 1 0 1y6t 1 r,0 1 0 1tz4 1 r,0 1 0 1tzd 1 r,0 1 0 272i 1 r,0 1 0 1x46 1 r,
  0 1 0 1u0d 1 r,0 1 0 1v5f 1 r,0 1 0 1y4n 1 r,0 1 0 26i8 1 r,0 1 0 1xzn 1 r,0 1 0 22kh 1 r,
  0 1 0 22re 1 r,0 1 0 1v60 1 r,0 1 0 20e8 1 r,0 1 0 1yx5 1 r,0 1 0 1yx4 1 r,0 1 0 21pv 1 r,
  0 1 0 1uuq 1 r,0 1 0 1vhy 1 r,0 1 0 279p 1 r,4 1 0 bk 1 3 1yy4 1 3 bl 1 3,
  0 1 0 bk 1 3 1tzd 1 3 bl 1 3,0 1 0 bk 1 3 1u30 1 3 bl 1 3,0 1 0 bk 1 3 1wnd 1 3 bl 1 3,
  0 1 0 bk 1 3 20u1 1 3 bl 1 3,0 1 0 bk 1 3 1xzn 1 3 bl 1 3,0 1 0 bk 1 3 221j 1 3 bl 1 3,
  0 1 0 bk 1 3 1uxp 1 3 bl 1 3,0 1 0 bk 1 3 1yl3 1 3 bl 1 3,7 1 0 1xg7 1 c,0 1 0 1v5b 1 c,
  e 6 1 3rt 1 2,4a lc 1 3rz 1 2,0 60 1 4ne 1 2,4 h 1 4te 1 2,3 d 1 4tv 1 2,3 3b 1 4u8 1 2,
  4 2n 1 4xj 1 2,6 c 1 506 1 2,4 1 0 50i 1 2,f c 1 50j 1 2,4 1k 1 50v 1 2,8 a 1 52f 1 2,
  6 14 1 52p 1 2,8 u 1 53t 1 2,2 2 1 54n 1 2,26 74 1 4db 1 2,0 2c 1 3ox 1 2,c e 1 3r9 1 2,
  2 d 1 4kf 1 2,3 9 1 4ks 1 2,7 1a 1 4l1 1 2,1 7 1 4mb 1 2,8 e 1 4mi 1 2,4 9 1 4mw 1 2,
  7 9 1 4n5 1 2,7 43 1 1ij 1 2,1 1j 1 1mm 1 2,11 9 1 61u 1 b,0 1 0 623 1 d,gvlz 1 0 0 0 0,
  u 2o 0 0 0 0,3k 6o 0 0 0 0,"

end ScannerConfig.Collation
