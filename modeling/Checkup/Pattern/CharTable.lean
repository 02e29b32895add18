/-!
# Character properties

General categories and scripts of all code points, in order, as runs: a code of letters for the
value and the length of the run in hexadecimal, left out when it is one. The properties follow as
gaps and lengths, the simple case folds as `first/count/stride` and the distance to the folded
letter.
-/

namespace Checkup.Pattern.CharTable

/-- The codes `g` to `z` and `G` to `P` stand for the categories in the order of
`categoryNames`. -/
def categoryRuns : String := "L20Ix3zx3tuxyxsx2oax2y3x2g1atxuGrGh1atyuyL21Ixz4HxGHkvyMHGHyq2Ghx2Gqkwq3xg17yg7h18yh8ghghghg
hghghghghghghghghghghghghghghghghghghghghghghghgh2ghghghghghghghgh2ghghghghghghghghghghghghg
hghghghghghghghghghghg2hghgh3g2hghg2hg3h2g4hg2hg3h3g2hg2hghghg2hgh2ghg2hg3hghg2h2kgh3k4gihgi
hgihghghghghghghghgh2ghghghghghghghghgh2gihghg3hghghghghghghghghghghghghghghghghghghghghghgh
ghghghghghghgh7g2hg2h2ghg4hghghghgh45k2h1aj12G4jcGej5G7jGjG11l70ghghjGghP2jh3xgP4G2gxg3PgPg2
hg11Pg9h23gh2g3h3ghghghghghghghghghghghgh5ghyghg2h2g33h30ghghghghghghghghghghghghghghghghghH
l5n2ghghghghghghghghghghghghghghghghghghghghghghghghghghghg2hghghghghghgh2ghghghghghghghghgh
ghghghghghghghghghghghghghghghghghghghghghghghghghghghghghghghghghghghghghghghPg26P2jx6h29xs
P2H2zPl2dslxl2xl2xlP8k1bP4k4x2PbM6y3x2zx2H2lbxMx3k20jkal15oax4k2lk63xkl7MHl6j2l2Hl4k2oak3H2k
xePMklk1el1bP2k59lbkPeoak21l9j2Hx3jP2lz2k16l4jl9jl3jl5P2xfPk19l3P2xPkbP5k18Gk7M2P5l9k29jl18M
l20mk36lmlkm3l8m4lm2kl7kal2x2oaxjkflm2Pk8P2k2P2k16Pk7PkP3k4P2lkm3l4P2m2P2m2lkP8mP4k2Pk3l2P2
oak2z2q6HzkxlP2l2mPk6P4k2P2k16Pk7Pk2Pk2Pk2P2lPm3l2P4l2P2l3P3lP7k4PkP7oal2k3lxPal2mPk9Pk3Pk16
Pk7Pk2Pk5P2lkm3l5Pl2mPm2lP2kPfk2l2P2oaxzP7kl6Plm2Pk8P2k2P2k16Pk7Pk2Pk5P2lkmlml4P2m2P2m2lP7l2
mP4k2Pk3l2P2oaHkq6PalkPk6P3k3Pk4P3k2PkPk2P3k2P3k3P3kcP4m2lm2P3m3Pm3lP2kP6mPeoaq3H6zHP5lm3lk8
Pk3Pk17Pk10P2lkl3m4Pl3Pl4P7l2Pk3Pk2P2k2l2P2oaP7xq7Hklm2xk8Pk3Pk17PkaPk5P2lkmlm5Plm2Pm2l2P7m2
P5k3Pk2l2P2oaPk2mPcl2m2k9Pk3Pk29l2km3l4Pm3Pm3lkHP4k3mq7k3l2P2oaq9Hk6Plm2Pk12P3k18Pk9PkP2k7P3
lP4m3l3PlPm8P6oaP2m2xPck30lk2l7P4zk6jl8xoax2P25k2PkPk5Pk18PkPkalk2l9kP2k5PjPl7PoaP2k4P20kH3
xfHxH3l2H6oaqaHlHlHltutum2k8Pk24P4leml5xl2k5lbPl24PH8lH6PH2x5H4x2P25k2bm2l4ml6ml2m2l2koax6k6
m2l2k4l3km3k2m7k3l4kdlm2l2m6lkmoam3lH2g26PgP5gP2h2bxjh3k149Pk4P2k7PkPk4P2k29Pk4P2k21Pk4P2k7P
kPk4P2kfPk39Pk4P2k43P2l3x9q14P3k10HaP6g56P2h6P2sk26cHxk11Ik1atuP3k4bx3p3k8P7k12l3mP9k13l2mx2
P9k12l2PckdPk3Pl2Pck34l2ml7m8lm2lbx3jx3zklP2oaP6qaP6x6sx4l3MloaP6k23jk35P7k5l2k22lkP5k46Pa
k1fPl3m4l2m3P4m2lm6l3P4HP3x2oak1eP2k5Pbk2cP4k1aP6oaqP3H22k17l2m2lP2x2k35mlml7Plmlm2l8m6laP2l
oaP6oaP6x7jx6P2lenl1fP2lcP14l4mk2flml5mlm5lm2k8Px2oax7Hal9H9x3l2mk1eml4m2l2ml3k2oak2clml2m3l
ml3m2P8x4k24m8l8m2l2P3x5oaP3k3oak1ej6x2h9ghP5g2bP2g3x8P8l3xldml7k4lk6lk2ml2kP5h2cj3fhdjh22
j25l40ghghghghghghghghghghghghghghghghghghghghghghghghghghghghghghghghghghghghghghghghghghgh
ghghghghghghghghghghghghghghghghghghghghghghghghghghghghghghghgh9ghghghghghghghghghghghghghg
hghghghghghghghghghghghghghghghghghghghghghghghghghghghghghghghghghghgh9g8h6P2g6P2h8g8h8g8h6
P2g6P2h8PgPgPgPgh8g8heP2h8i8h8i8h8i8h5Ph2g4iGhG3h3Ph2g4iG3h4P2h2g4PG3h8g5G3P2h3Ph2g4iG2PIbM5
s6x2vwtv2wtvx8JKM5Ix9vwx4r2x3ytuxbyxrxaIM5PMaqjP2q6y3tujqay3tuPjdP3z22Peldn4ln3lcPfH2gH4gH2h
g3h2g3hHgH2yg5H6gHgHgHg4Hhg4hk4hH2h2g2y5gh4HyH2hHq10p23ghp4qH2P4y5H5y2H4yH2yH2yH7yH1fy2H2yHy
H1fy10cH8tutuH14y2H7tuH51yH1ey19H28y6H48P16HbP15q3cH4eq16Hb7yH9yH36y8H6fyHf8tututututututu
q1eH2cy5tuy1ftututututuy10H100y83tututututututututututuy3ftutuy20tuy102H30y15H2y6H27P2H8ag30
h30ghg3h2ghghghg4hgh2gh6j2g3hghghghghghghghghghghghghghghghghghghghghghghghghghghghghghghghg
hghghghghghghghghghghghghghghghghgh2H6ghghl3ghP5x4qx2h26PhP5hP2k38P7jxPelk17P9k7Pk7Pk7Pk7Pk7
Pk7Pk7Pk7Pl20x2vwvwx3vwxvwx9sx2sxvwx2vwtutututux5jxas2x4sxtxdH2x3tutututusP22H1aPH59PcHd6P1a
H10Ix3HjkptututututuH2tutututustu2Hp9l4m2sj5H2p3jkxH2Pk56P2l2G2j2ksk5axj3kP5k2bPk5ePH2q4Ha
k20H26P9Hk10H1fPqaH1eq8HqfH20qaH27qfH140k19c0H40k5215jk477P3H37P9k28j6x2k10cjx3k10oak2P14ghg
hghghghghghghghghghghghghghghghghghghghghghkln3xlaxjghghghghghghghghghghghghghghj2l2k46pal2
x6P8G17j9G2ghghghghghghgh3ghghghghghghghghghghghghghghghghghghghghghghghghghghghghghghghjh8g
hghg2hghghghghjG2ghghkghgh3ghghghghghghghghghghg5hg5hghghghghghghghg4hghg2hghghghghghghghg
P14j4ghkj2hk7lk3lk4lk17m2l2mH4lP3q6H2zHP6k34x4P8m2k32m10l2P8x2oaP6l12k6x3kxk2loak1cl8x2k17lb
m2Pbxk1dP3l3mk2flm2l4m2l2m3xdPjoaP4x2k5ljk9oak5Pk29l6m2l2m2l2P9k3lk8lmP2oaP2x4k10jk6H3kmlm
k32lkl3k2l2k5l2klkP18k2jx2kbml2m2x2kj2mlPak6P2k6P2k6P9k7Pk7Ph2bGj4h9jG2P4h50k23m2lm2lm2xmlP2
oaP6k2ba4Pck17P4k31P4N800O1900k16eP2k6aP26h7Pch5P5klkaykdPk5PkPk2Pk2Pk6cG11H10k16butH10k40H2
k36H8P20kczH3l10x7tuxP6l10xs2r2tutututututututux2tux4r3x3Px4stututux3ysy3Pxzx2P4k5Pk87P2MPx3
zx3tuxyxsx2oax2y3x2g1atxuGrGh1atyuytuxtux2kajk2dj2k1fP3k6P2k6P2k6P2k3P3z2yGHz2PHy4H2PaM3H2P2
kcPk1aPk13Pk2PkfP2keP22k7bP5x3P4q2dP3H9p35q4H11q2H3PHdP3HP2fH2dlP82k1dP3k31Pflq1bP4k20q4P9
k14pk8pP5k26l5P5k1ePxk24P4k8xp5P2ag28h28k4eP2oaP6g24P4h24P4k28P8k34PbxgbPgfPg7Pg2PhbPhfPh7P
h2P3k34Pck137P9k16Pak8P18j6Pj2aPj9P45k6P2kPk2cPk2P3kP2k17Pxq8k17H2q7k1fP8q9P30k13Pk2P5q5k16
q6P3xk1aP5xk1aP26k38P4q2k2q10P2q2ekl3Pl2P5l4k4Pk3Pk1dP2l3P4lq9P7x9P7k1dq2xk1dq3P20k8Hk1cl2P4
q5x7P9k36P3x7k16P2q8k13P5q8k12P7x4Pcq7P50k49P37g33Pdh33P7q6k24l4P8oaP6oak4jkg16P3l5sjh16P8y2
Pd0q1fPk2aPl2sP2k2P10k3jk2P8xH8P21l6k1dqakP8k16lbq4x5P16k12l4x4P26k15q7P14k17P9mlmk35lfx7P4
q14oalk2l2kP9l3mk2dm3l4m2l2x2Mx4lPaMP2k19P7oaP6l3k24l5ml8Poax4km2kP8k23lx2kP9l2mk30m3l9m2k4
x4l4xmloakxkx3Pq14Pbk12Pk19m3l3m2lml2x6lk2lP3ek7PkPk4PkfPkaxP6k2flm3l8P5oaP6l2m2Pk8P2k2P2k16
Pk7Pk2Pk5Pl2km2lm4P2m2P2m3P2kP6mP5k5m2P2l7P3l5PbkaPkP2kPk26Pkm3l6PmP2mPm4Pm2lmlklkx2Px2P8l2
P1dk35m3l8m2l3mlk4x5oax2Pxlk3P1ek30m3l6mlm4l2ml2k2xkP8oaPa6k2fm3l4P2m4l2ml2x17k4l2P22k30m3l8
m2lml2x3kPboaP6xdP13k2blmlm2l6mlkxP6oaP6o14P1ck1bP2lmlm2l4ml5P4oaq2x3Hk7Pb9k2cm3l9ml2xP64g20
h20oaq9Pck8P2kP2k8Pk2Pk18m6Pm2P2l2mlkmkmlx3P9oaP46k8P2k27m3l4P2l2m4lkxkmP1bklak28l6mkl4x8lP8
kl6m2l3k2eldml2x3kx5Pdk49P7xaP56lml3mlmP58k21xPeoaP6k9Pk25ml7Pl6mlkx5Paoaq13P3x2k1eP2l16Pml7
ml2ml2P49k7Pk2Pk26l6P3lPl2Pl7klP8oaP6k6Pk2Pk20m5Pl2Pm2lmlkP7oaP6k29jk2P4oaPf6k13l2m2x2P7l2km
kdPk22m2l5P3m2lmlxdoalP55kPfq15H8z4H11Pdxk39aP66p6fPx5Pbkc4Pa4ck61x2Pdk430M10lk6lfPakf9bP5
k247P1ab9k1elcm3l3oaP6c6k239P7k1fPoaP4x2k4fPoaP6k1eP2l5xPak30l7x5H4j4xHPaoaPq7Pk15P5k13P1b0
j3k28j2x3oaPc6g20h20q17x4P5g19P2h19P2ck4bP4lkm37P7l4jdP40j2xjlPbm2j2p3P9k1cd6P29k20P61k73
P21fdj4Pj7Pj2Pk123PfkP1dk3P2kPek4P8k18cP904k6bP5kdP3k9P7kaP2Hl2xM4Pf5cHf0oaH3P3H1b4P6H17Pf
H10yPfl2eP2l17P9H74P3cHf6PaH27P2H3cm2l3H3m6M8l8H2l7H1el4H3dP15H42l3HP7aq14Pcq14PcH57P9q19P87
g1ah1ag1ah7Ph12g1ah1agPg2P2gP2g2P2g4Pg8h4PhPh7Phbg1ah1ag2Pg4P2g8Pg7Ph1ag2Pg4Pg5PgP3g7Ph1ag1a
h1ag1ah1ag1ah1ag1ah1ag1ah1ag1ah1cP2g19yh19yh6g19yh19yh6g19yh19yh6g19yh19yh6g19yh19yh6ghP2o32
H200l37H4l32H8lHelH2x5Pfl5PlfP450hakh14P6h6Pd5l7Pl11P2l7Pl2Pl5P5j3eP21lP70k2dP3l7j7P2oaP4kH
P140k1elP11k2cl4oaP5zP1d0k1bjl4oaPd6k1el2koaP4xPc0k1fPk3lk2lk7l2k5lP8kjPe0k7Pk4Pk2PkfPkc5P2
q9l7P29g22h22l7jP4oaP4x2P311q3bHq3zq4P4cq2dHqfPc2k4Pk1bPk2PkP2kPkaPk4PkPkP6kP4kPkPkPk3Pk2Pk
P2kPkPkPkPkPk2PkP2k4Pk7Pk4Pk4PkPkaPk11P5k3Pk5Pk11P34y2P10eH2cP4H64PcHfP2HfPHfPH25PaqdHa1P38
H1dPdH2cP4H9P7H2PeH6P9aHfbG5H2d9P3H11P3HdP3HdaP6HcP4HPfHcP4H38P8HaP6H28P8H1eP2HcP4H2Pey9P27
H158P8HeP2HdP3HbP3H39PHP4H10P2HcP4HaP7H93PH5coaHP405ka6e0P20k111eP2k168eP2k1d31Pfk26eP9a2
k21eP5e2k134bP5k212aPacb87MP1eM60P80lf0Pfe10OfffeP2OfffeP2"

def categoryNames : String := "lu=uppercaseletter ll=lowercaseletter lt=titlecaseletter lm=modifierletter lo=otherletter
mn=nonspacingmark mc=spacingmark me=enclosingmark nd=decimalnumber=digit nl=letternumber
no=othernumber pc=connectorpunctuation pd=dashpunctuation ps=openpunctuation
pe=closepunctuation pi=initialpunctuation pf=finalpunctuation po=otherpunctuation
sm=mathsymbol sc=currencysymbol sk=modifiersymbol so=othersymbol zs=spaceseparator
zl=lineseparator zp=paragraphseparator cc=control=cntrl cf=format cs=surrogate
co=privateuse cn=unassigned"

/-- Two code letters number the entry of `scriptNames`; one past the last stands for none. -/
def scriptRuns : String := "ki41hP1aki6hP1aki2fhPkifhPki5hP17kihP1fkihP1c1ki27hP5ki5gt2ki14kh70hj4kihj3kj2hj4kihjkj4hjki
hjkihj3kjhjkjhj14kjhj3fgKehj10gN85kh2gNa9kjgl26kj2gl32kj2gl3kjhq37kj8hq1bkj4hq6kjbgj5kigj6ki
gjekigj3kigj20kigjakhbgj1akhgj6ckigj22juekjju3ckj2ju3gj30jL32kjeiy3bkj2iy3iZ2ekj2iZfkjhZ1c
kj2hZkjjubkj5gj22kj5gj4bkigj1dgO51kh4gOfki2gO1agr4kjgr8kj2gr2kj2gr16kjgr7kjgrkj3gr4kj2gr9kj2
gr2kj2gr4kj8grkj4gr2kjgr5kj2gr19kj2hl3kjhl6kj4hl2kj2hl16kjhl7kjhl2kjhl2kjhl2kj2hlkjhl5kj4hl2
kj2hl3kj3hlkj7hl4kjhlkj7hl11kjahk3kjhk9kjhk3kjhk16kjhk7kjhk2kjhk5kj2hkakjhk3kjhk3kj2hkkjfhk4
kj2hkckj7hk7kjiJ3kjiJ8kj2iJ2kj2iJ16kjiJ7kjiJ2kjiJ5kj2iJ9kj2iJ2kj2iJ3kj7iJ3kj4iJ2kjiJ5kj2iJ12
kjajz2kjjz6kj3jz3kjjz4kj3jz2kjjzkjjz2kj3jz2kj3jz3kj3jzckj4jz5kj3jz3kjjz4kj2jzkj6jzkjejz15kj5
jIdkjjI3kjjI17kjjI10kj2jI9kjjI3kjjI4kj7jI2kjjI3kjjI2kj2jI4kj2jIakj7jI9hLdkjhL3kjhL17kjhLakj
hL5kj2hL9kjhL3kjhL4kj7hL2kj5hL3kjhL4kj2hLakjhL3kjcimdkjim3kjim33kjim3kjim6kj4im10kj2im1akj
jn3kjjn12kj3jn18kjjn9kjjnkj2jn7kj3jnkj4jn6kjjnkjjn8kj6jnakj2jn3kjcjM3akj4kijM1ckj25hO2kjhOkj
hO5kjhO18kjhOkjhO17kj2hO5kjhOkjhO7kjhOakj2hO4kj20jN48kjjN24kj4jN27kjjN24kjjNfkjjN7ki4jN2kj25
isa0gX26kjgXkj5gXkj2gX2bkigX4hm100gW49kjgW4kj2gW7kjgWkjgW4kj2gW29kjgW4kj2gW21kjgW4kj2gW7kjgW
kjgW4kj2gWfkjgW39kjgW4kj2gW43kj2gW20kj3gW1akj6gI56kj2gI6kj2gz280iG1dkj3iY4bki3iYbkj7jK16kj9
jKho15ki2kj9gx14kjcjvdkjjv3kjjv2kjchI5ekj2hIakj6hIakj6io2ki2iokiio14kj6io59kj7io2bkj5gz46kja
hR1fkjhRckj4hRckj4hRkj3hRcjx1ekj2jx5kjbjy2ckj4jy1akj6jybkj3jy2hI20gw1ckj2gw2hN3fkjhN1dkj2hNb
kj6hNakj6hNekj2kh2ekj2khckj14gn4dkjgn32js40gq34kj8gq4hQ38kj3hQfkj3hQ3iH30gNbkj5gX2bkj2gX3js8
kj8kh3kikhdkikh7ki4khki6khki3kh2kikj5hP26hj5gNhP31hj5hP4hj5hPdgNhP46hjkh40hP100hj16kj2hj6kj2
hj26kj2hj6kj2hj8kjhjkjhjkjhjkjhj1fkj2hj35kjhjfkjhjekj2hj6kjhj13kj2hj3kjhj9kjkickh2ki57kjkib
hPkj2kibhPkifkjhPdkj3ki22kjekh21kjfki26hjki3hP2ki6hPki1bhPki11hP29ki3kj4ki29akj16kibkj15
ki3a0gv100ki274kj2ki8agY60hP20gK74kj5gK7gX26kjgXkj5gXkj2jJ38kj7jJ2kjejJgW17kj9gW7kjgW7kjgW7
kjgW7kjgW7kjgW7kjgW7kjgW7kjgN20ki5ekj22hn1akjhn59kjchnd6kj1aki15hnkihnki19hn9kh4hm2ki8hn4ki4
kjhr56kj2kh2ki2hr3kihz5aki2hz3kj5gt2bkjhm5ekjki10gt20ki26kj9kihz10hm1fkjki40hm1fki51hz2fki
hz58kia8hn19c0ki40hn5200jZ48dkj3jZ37kj9hU30jS12ckj14gN60go58kj8ki22hP66ki3hP52kj14hPfjt2dkj3
kiakj6iQ38kj8jh46kj8jhckj6gO20hy2ekihyiW24kjbiWhm1dkj3hx4ekjkihxakj4hx2is1fkjgH37kj9gHekj2
gHakj2gH4is20jH43kj18jH5iq17kjagW6kj2gW6kj2gW6kj9gW7kjgW7kjhP2bkihP9hjhP4ki2kj4gI50iq2ekj2
iqakj6hm2ba4kjchm17kj4hm31kj2104hn16ekj2hn6akj26hP7kjcgl5kj5hq1akjhq5kjhqkjhq2kjhq2kjhqa
gj1eeki2gj90kj20gj10kh10kiakj6khegN2ki23kjki13kjki4kj4gj5kjgj87kj2kikjki20hP1aki6hP1akibhza
kihz2dki2hm1fkj3hm6kj2hm6kj2hm6kj2hm3kj3ki7kjki7kjaki5kj2hTckjhT1akjhT13kjhT2kjhTfkj2hTekj22
hT7bkj5ki3kj4ki2dkj3ki9hj4fkjkidkj3hjkj2fki2dkhkj82hV1dkj3gG31kjfkhki1bkj4hw24kj9hw3hh1bkj5
iP2bkj5jR1ekjjRjW24kj4jWekj2agR50jj30iL1ekj2iLakj6iK24kj4iK24kj4gU28kj8gh34kjbghjTbkjjTfkj
jT7kjjT2kjjTbkjjTfkjjT7kjjT2kj3kk34kjchS137kj9hS16kjahS8kj18hP6kjhP2akjhP9kj45gM6kj2gMkjgM2c
kjgM2kj3gMkj2gMgk16kjgk9iN20iw1fkj8iw9kj30hp13kjhp2kj5hp5iT1ckj3iThW1akj5hWkk1akj26il20ik18
kj4ik14kj2ik2ehH4kjhH2kj5hH8kjhH3kjhH1dkj2hH3kj4hHakj7hH9kj7jg20iv20kj20ig27kj4igckj9gm36kj3
gm7iV16kj2iV8iR13kj5iR8iS12kj7iS4kjciS7kj50iI49kj37hv33kjdhv33kj7hv6iX28kj8iXakj6kk26kj3kk1d
kj8kk2kjd0gj1fkjjY2akjjY3kj2jY2kj10gj6kj8gj9kj21gj6jp28kj8jo2akj16iM1akj26gJ1ckj14gV17kj9
gu4ekj4gu24kj9guhM43kjahMkj2jq19kj7jqakj6gy35kjgy12kj8hX27kj9jk60kjjn14kjbhJ12kjhJ2fkj3eir7
kjirkjir4kjirfkjirbkj6jm3bkj5jmakj6hi4kjhi8kj2hi2kj2hi16kjhi7kjhi2kjhi5kjkhhi9kj2hi2kj2hi3
kj2hikj6hikj5hi7kj2hi7kj3hi5kjbkkakjkkkj2kkkjkk26kjkkakjkkkj2kkkjkk4kjkkakjkk2kj8kk2kj1dix5c
kjix5kj1ejO48kj8jOakja6jl36kj2jl26kj22in45kjbinakj6iodkj13jw3akj6jwakj6is14kj1cgi1bkj2gifkj4
gi17kjb9gQ3ckj64jU53kjcjUgP7kj2gPkj2gP8kjgP2kjgP1ekjgP2kj2gPckj9gPakj46iu8kj2iu2ekj2iubkj1b
kg48kj8jr53kjdgz10iO39kj7gOakj56jk8kj58kk22kjekkakj6gs9kjgs2dkjgsekjags1dkj3ih20kj2ih16kjihe
kj49hg7kjhg2kjhg2ckj3hgkjhg2kjhg9kj8hgakj6gZ6kjgZ2kjgZ25kjgZ2kjgZ6kj7gZakj6kk2ckj4kkakjf6
hY19kj7hG11kjhG29kj3hG1dkj55hUkjfjz32kjdjzjX39akj66jX6fkjjX5kjbjXc4kja4cgL63kjdgT456kjagTf9b
kj5hs247kj1ab9kk3akj6c6go239kj7ip1fkjipakj4ip2jP4fkjjPakj6gp1ekj2gp6kjaht46kjahtakjht7kjht15
kj5ht13kj1b0kk3akjc6ii5bkj5kk19kj2kk19kj2ciU4bkj4iU39kj7iU11kj40jGizhn2hKkjbhn7kj9jG1b00
hK1d6kj29hKjG1fkj61jG73kj21fdhz4kjhz7kjhz2kjhzhr11fhz3kjfhrkj1dhr3kj2hzkjehz4kj8iz18ckj904
gS6bkj5gSdkj3gS9kj7gSakj2gS4ki4kjf5ckifdkj3ki1b4kj6ki17kjfki11kjfkh2ekj2kh17kj9ki74kj3ckif6
kjaki27kj2ki3ekh3ki11kh8ki2kh7ki1ekh4ki3dkj15hj46kj7aki14kjcki14kjcki57kj9ki19kj87ki55kjki47
kjki2kj2kikj2ki2kj2ki4kjkickjkikjki7kjki41kjki4kj2ki8kjki7kjki1ckjki4kjki5kjkikj3ki7kjki154
kj2ki124kj2ki32ji28ckjfji5kjjifkj450hP1fkj6hP6kjd5gY7kjgY11kj2gY7kjgY2kjgY5kj5gN3ekj21gNkj70
hu2dkj3huekj2huakj4hu2kj140jQ1fkj11jV3akj5jVkj1d0it2akjd6kk2bkj4kkkjc0kk1fkjkk16kj8kk2kje0
gW7kjgW4kjgW2kjgWfkjijc5kj2ij10kj29gg4ckj4ggakj4gg2kj311ki44kj4cki3dkjc2gj4kjgj1bkjgj2kjgj
kj2gjkjgjakjgj4kjgjkjgjkj6gjkj4gjkjgjkjgjkjgj3kjgj2kjgjkj2gjkjgjkjgjkjgjkjgjkjgj2kjgjkj2gj4
kjgj7kjgj4kjgj4kjgjkjgjakjgj11kj5gj3kjgj5kjgj11kj34gj2kj10eki2ckj4ki64kjckifkj2kifkjkifkj
ki25kjakiaekj38ki1ahrki2kjdki2ckj4ki9kj7ki2kjeki6kj9aki3d9kj3ki11kj3kidkj3kidakj6kickj4kikjf
kickj4ki38kj8kiakj6ki28kj8ki1ekj2kickj4ki2kjeki9kj27ki158kj8kiekj2kidkj3kibkj3ki39kjkikj4
ki10kj2kickj4kiakj7ki93kjki67kj405hna6e0kj20hn111ekj2hn168ekj2hn1d31kjfhn26ekj9a2hn21ekj5e2
hn134bkj5hn212akjacb87kikj1eki60kj80khf0kj2fe10"

def scriptNames : String := "adlm=adlam aghb=caucasianalbanian ahom arab=arabic armi=imperialaramaic armn=armenian
avst=avestan bali=balinese bamu=bamum bass=bassavah batk=batak beng=bengali bhks=bhaiksuki
bopo=bopomofo brah=brahmi brai=braille bugi=buginese buhd=buhid cakm=chakma
cans=canadianaboriginal cari=carian cham cher=cherokee chrs=chorasmian copt=coptic=qaac
cpmn=cyprominoan cprt=cypriot cyrl=cyrillic deva=devanagari diak=divesakuru dogr=dogra
dsrt=deseret dupl=duployan egyp=egyptianhieroglyphs elba=elbasan elym=elymaic ethi=ethiopic
geor=georgian glag=glagolitic gong=gunjalagondi gonm=masaramgondi goth=gothic gran=grantha
grek=greek gujr=gujarati guru=gurmukhi hang=hangul hani=han hano=hanunoo hatr=hatran
hebr=hebrew hira=hiragana hluw=anatolianhieroglyphs hmng=pahawhhmong
hmnp=nyiakengpuachuehmong hung=oldhungarian ital=olditalic java=javanese kali=kayahli
kana=katakana kawi khar=kharoshthi khmr=khmer khoj=khojki kits=khitansmallscript
knda=kannada kthi=kaithi lana=taitham laoo=lao latn=latin lepc=lepcha limb=limbu
lina=lineara linb=linearb lisu lyci=lycian lydi=lydian mahj=mahajani maka=makasar
mand=mandaic mani=manichaean marc=marchen medf=medefaidrin mend=mendekikakui
merc=meroiticcursive mero=meroitichieroglyphs mlym=malayalam modi mong=mongolian mroo=mro
mtei=meeteimayek mult=multani mymr=myanmar nagm=nagmundari nand=nandinagari
narb=oldnortharabian nbat=nabataean newa nkoo=nko nshu=nushu ogam=ogham olck=olchiki
orkh=oldturkic orya=oriya osge=osage osma=osmanya ougr=olduyghur palm=palmyrene
pauc=paucinhau perm=oldpermic phag=phagspa phli=inscriptionalpahlavi phlp=psalterpahlavi
phnx=phoenician plrd=miao prti=inscriptionalparthian rjng=rejang rohg=hanifirohingya
runr=runic samr=samaritan sarb=oldsoutharabian saur=saurashtra sgnw=signwriting
shaw=shavian shrd=sharada sidd=siddham sind=khudawadi sinh=sinhala sogd=sogdian
sogo=oldsogdian sora=sorasompeng soyo=soyombo sund=sundanese sylo=sylotinagri syrc=syriac
tagb=tagbanwa takr=takri tale=taile talu=newtailue taml=tamil tang=tangut tavt=taiviet
telu=telugu tfng=tifinagh tglg=tagalog thaa=thaana thai tibt=tibetan tirh=tirhuta
tnsa=tangsa toto ugar=ugaritic vaii=vai vith=vithkuqi wara=warangciti wcho=wancho
xpeo=oldpersian xsux=cuneiform yezi=yezidi yiii=yi zanb=zanabazarsquare zinh=inherited=qaai
zyyy=common zzzz=unknown"

def alphabetic : String := "30+0 b+0 5+0 6+16 2+1e 2+1c9 5+b f+4 8+0 2+0 57+0 1e+11 2+1 3+3 2+0 7+0 2+2 2+0
2+13 2+52 2+8a 9+a5 2+25 3+0 7+28 28+d 2+0 2+1 2+1 2+0 9+1a 5+3 1e+a 6+37 2+6 f+65 2+7 5+7
5+2 b+2 3+0 11+2f e+64 19+20 a+1 5+0 6+17 3+12 14+18 8+a 6+17 2+6 8+0 9+29 b+b 4+6 7+4b 2+f
2+2 5+e e+12 2+7 3+1 3+15 2+6 2+0 4+3 4+7 3+1 3+1 2+0 9+0 5+1 2+4 d+1 b+0 5+2 2+5 5+1 3+15
2+6 2+1 2+1 2+1 5+4 5+1 3+1 5+0 8+3 2+0 12+5 c+2 2+8 2+2 2+15 2+6 2+1 2+4 4+8 2+2 2+1 4+0
10+3 16+3 5+2 2+7 3+1 3+15 2+6 2+1 2+4 4+7 3+1 3+1 a+1 5+1 2+4 e+0 11+1 2+5 4+2 2+3 4+1 2+0
2+1 4+1 4+2 4+b 5+4 4+2 2+2 4+0 7+0 29+c 2+2 2+16 2+f 4+7 2+2 2+2 9+1 2+2 2+1 3+3 1d+3 2+7
2+2 2+16 2+9 2+4 4+7 2+2 2+2 9+1 6+2 2+3 e+2 d+c 2+2 2+28 3+7 2+2 2+2 2+0 6+3 8+4 17+5 2+2
2+11 4+17 2+8 2+0 3+6 9+5 2+0 2+7 13+1 e+39 6+6 7+0 34+1 2+0 2+4 2+17 2+0 2+12 2+2 3+4 2+0
7+0 f+3 21+0 40+7 2+23 5+12 5+f 2+23 44+36 2+0 3+4 11+3f b+3 3+25 2+0 6+0 3+2a 2+14c 2+3
3+6 2+0 2+3 3+28 2+3 3+20 2+3 3+6 2+0 2+3 3+e 2+38 2+3 3+42 26+f 11+55 3+5 4+26b 3+10 2+19
6+4a 4+a 8+13 c+14 d+13 d+c 2+2 2+1 d+33 3+12 f+0 5+0 44+58 8+2a 6+45 b+1e 2+b 5+8 18+1d
3+4 c+2b 5+19 37+1b 5+3e 3+13 33+0 18+1 c+2 32+33 2+e 2+7 34+29 3+3 b+2b 2+a f+36 17+2 b+23
3+a 6+2a 3+2 2a+3 2+5 2+1 4+0 6+bf 14+21 c+115 3+5 3+25 3+5 3+7 2+0 2+0 2+0 2+1e 3+34 2+6
2+0 4+2 2+6 4+3 3+5 5+c 6+2 2+6 75+0 e+0 11+c 66+0 5+0 3+9 2+0 4+4 7+0 2+0 2+0 2+3 2+a 3+3
6+4 5+0 12+28 32e+33 717+e4 7+3 4+1 d+25 2+0 6+0 3+37 8+0 11+16 a+6 2+6 2+6 2+6 2+6 2+6 2+6
2+6 2+1f 30+0 1d6+2 1a+8 8+4 3+4 5+55 7+2 2+59 2+3 6+2a 2+5d 12+1f 31+f 201+19bf 41+568c
44+2d 3+10c 4+f b+1 15+2e 6+7 4+70 28+8 3+66 3+51 15+14 2+20 19+33 d+43 2+0 2d+5 4+0 2+2
b+20 6+22 e+1c 4+32 2+b 10+0 11+f b+4 2+36 a+d 13+16 4+44 2+0 2+0 19+2 3+f 3+3 c+5 3+5 3+5
a+6 2+6 2+2a 2+d 7+7a 16+2ba3 d+16 5+30 2105+16d 3+69 27+6 d+4 6+b 2+c 2+4 2+0 2+1 2+1 2+6b
22+16a 13+3f 3+35 29+b 75+4 2+86 25+19 7+19 c+58 4+5 3+5 3+5 3+2 24+b 2+19 2+12 2+1 2+e 3+d
23+7a 46+34 10c+1c 4+30 30+1f e+1d 6+2a 6+1d 3+23 5+7 2+4 2b+9d 13+23 5+23 5+27 9+33 d+a
2+e 2+6 2+1 2+a 2+e 2+6 2+1 4+33 d+136 a+15 b+7 19+5 2+29 2+8 46+5 3+0 2+2b 2+1 4+0 3+16
b+16 a+1e 42+12 2+1 b+15 b+19 7+19 27+37 7+1 41+3 2+1 6+7 2+2 2+1c 2b+1c 4+1c 24+7 2+1b
1c+35 b+15 b+12 e+11 6f+48 38+32 e+32 e+27 23+1b 4+0 6+16 fb+29 2+1 4+1 11+5 33+2 4+1c b+0
9+15 2b+11 2f+14 1c+16 a+45 2c+4 b+38 a+0 e+18 18+32 12+3 9+22 4+0 a+3f 2+3 a+1 b+0 2+0
24+11 2+21 3+0 7+3 3f+6 2+0 2+3 2+e 2+9 8+38 18+3 2+7 3+1 3+15 2+6 2+1 2+4 4+7 3+1 3+1 4+0
7+0 6+6 1d+9 2+0 3+0 2+25 2+9 2+0 3+0 2+3 2+1 4+0 2+0 2d+41 2+2 2+3 15+2 1f+41 3+1 2+0
b9+35 3+6 1a+5 23+3e 2+0 4+0 3c+35 3+0 48+1a 3+d 16+6 ba+38 68+3f 20+7 3+0 3+7 2+1 2+1d 2+1
3+1 3+3 5e+7 3+2d 3+5 2+0 2+1 1c+32 3+9 12+47 6+0 13+48 68+7 59+20 20+8 2+2c 2+6 2+0 32+1d
3+15 2+d 4a+6 2+1 2+2b 4+0 2+1 2+2 2+0 3+1 19+5 2+1 2+24 2+1 2+3 2+0 18+2b 105+16 a+10 2+28
4+2 70+0 50+399 67+6e 12+c3 a4d+60 10+42f 12+5 1a+f9a 6+246 1aba+2e 6d2+238 8+1e 12+4e
12+1d 13+2f 11+3 20+14 6+12 1b1+2c d4+3f 21+18 3+18 2d+4a 5+38 8+10 41+1 2+0 d+6 a+1cd5
2a+1f 62+72 21fe+3 2+6 2+1 2+122 10+0 1e+2 3+0 f+3 9+18b 905+6a 6+c 4+8 8+9 5+0 1762+54
2+46 2+1 3+0 3+1 3+3 2+b 2+0 2+6 2+40 2+3 3+7 2+6 2+1b 2+3 2+4 2+0 4+6 2+153 3+18 2+18 2+1e
2+18 2+1e 2+18 2+1e 2+18 2+1e 2+18 2+7 735+1e 7+5 d6+6 2+10 3+6 2+1 2+4 6+3d 22+0 71+2c b+6
11+0 142+1d 13+2b 1e5+1b e5+1d 3+0 d0+1e 2+15 9+1 e1+6 2+3 2+1 2+e 2+c4 3c+43 4+0 4+0 4b5+3
2+1a 2+1 2+0 3+0 2+9 2+3 2+0 2+0 7+0 5+0 2+0 2+0 2+2 2+1 2+0 3+0 2+0 2+0 2+0 2+0 2+1 2+0
3+3 2+6 2+3 2+3 2+0 2+9 2+10 6+2 2+4 2+10 275+19 7+19 7+19 e77+a6df 21+111d 3+168d 3+1d30
10+26d 9a3+21d 5e3+134a 6+2129"

def lowercase : String := "61+19 30+0 b+0 5+0 25+17 2+7 2+0 2+0 2+0 2+0 2+0 2+0 2+0 2+0 2+0 2+0 2+0 2+0 2+0 2+0 2+0
2+0 2+0 2+0 2+0 2+0 2+0 2+0 2+0 2+0 2+0 2+0 2+0 2+1 2+0 2+0 2+0 2+0 2+0 2+0 2+0 2+1 2+0 2+0
2+0 2+0 2+0 2+0 2+0 2+0 2+0 2+0 2+0 2+0 2+0 2+0 2+0 2+0 2+0 2+0 2+0 2+0 2+0 2+0 2+0 3+0 2+0
2+2 3+0 2+0 3+0 4+1 5+0 3+0 4+2 3+0 3+0 2+0 2+0 3+0 2+1 2+0 3+0 4+0 2+0 3+1 3+2 7+0 3+0 3+0
2+0 2+0 2+0 2+0 2+0 2+0 2+0 2+1 2+0 2+0 2+0 2+0 2+0 2+0 2+0 2+0 2+1 3+0 2+0 4+0 2+0 2+0 2+0
2+0 2+0 2+0 2+0 2+0 2+0 2+0 2+0 2+0 2+0 2+0 2+0 2+0 2+0 2+0 2+0 2+0 2+0 2+0 2+0 2+0 2+0 2+0
2+0 2+0 2+6 3+0 3+1 2+0 5+0 2+0 2+0 2+0 2+44 3+22 8+1 1f+4 61+0 2c+0 2+0 4+0 3+3 13+0 1c+22
2+1 4+2 2+0 2+0 2+0 2+0 2+0 2+0 2+0 2+0 2+0 2+0 2+0 2+4 2+0 3+0 3+1 34+2f 2+0 2+0 2+0 2+0
2+0 2+0 2+0 2+0 2+0 2+0 2+0 2+0 2+0 2+0 2+0 2+0 2+0 a+0 2+0 2+0 2+0 2+0 2+0 2+0 2+0 2+0 2+0
2+0 2+0 2+0 2+0 2+0 2+0 2+0 2+0 2+0 2+0 2+0 2+0 2+0 2+0 2+0 2+0 2+0 3+0 2+0 2+0 2+0 2+0 2+0
2+1 2+0 2+0 2+0 2+0 2+0 2+0 2+0 2+0 2+0 2+0 2+0 2+0 2+0 2+0 2+0 2+0 2+0 2+0 2+0 2+0 2+0 2+0
2+0 2+0 2+0 2+0 2+0 2+0 2+0 2+0 2+0 2+0 2+0 2+0 2+0 2+0 2+0 2+0 2+0 2+0 2+0 2+0 2+0 2+0 2+0
2+0 2+0 2+0 31+28 b48+2a 2+3 2f9+5 883+8 2+0 76+bf 42+0 2+0 2+0 2+0 2+0 2+0 2+0 2+0 2+0 2+0
2+0 2+0 2+0 2+0 2+0 2+0 2+0 2+0 2+0 2+0 2+0 2+0 2+0 2+0 2+0 2+0 2+0 2+0 2+0 2+0 2+0 2+0 2+0
2+0 2+0 2+0 2+0 2+0 2+0 2+0 2+0 2+0 2+0 2+0 2+0 2+0 2+0 2+0 2+0 2+0 2+0 2+0 2+0 2+0 2+0 2+0
2+0 2+0 2+0 2+0 2+0 2+0 2+0 2+0 2+0 2+0 2+0 2+0 2+0 2+0 2+0 2+0 2+0 2+0 2+8 2+0 2+0 2+0 2+0
2+0 2+0 2+0 2+0 2+0 2+0 2+0 2+0 2+0 2+0 2+0 2+0 2+0 2+0 2+0 2+0 2+0 2+0 2+0 2+0 2+0 2+0 2+0
2+0 2+0 2+0 2+0 2+0 2+0 2+0 2+0 2+0 2+0 2+0 2+0 2+0 2+0 2+0 2+0 2+0 2+0 2+0 2+0 2+0 2+8 9+5
b+7 9+7 9+5 b+7 9+7 9+d 3+7 9+7 9+7 9+4 2+1 7+0 4+2 2+1 9+3 3+1 9+7 b+2 2+1 7a+0 e+0 11+c
6e+0 4+1 4+0 1c+0 5+0 5+0 3+1 9+3 5+0 22+f 5+0 34c+19 747+2f 2+0 4+1 2+0 2+0 2+0 5+0 2+1
2+7 4+0 2+0 2+0 2+0 2+0 2+0 2+0 2+0 2+0 2+0 2+0 2+0 2+0 2+0 2+0 2+0 2+0 2+0 2+0 2+0 2+0 2+0
2+0 2+0 2+0 2+0 2+0 2+0 2+0 2+0 2+0 2+0 2+0 2+0 2+0 2+0 2+0 2+0 2+0 2+0 2+0 2+0 2+0 2+0 2+0
2+0 2+0 2+0 2+0 2+1 8+0 2+0 5+0 d+25 2+0 6+0 7914+0 2+0 2+0 2+0 2+0 2+0 2+0 2+0 2+0 2+0 2+0
2+0 2+0 2+0 2+0 2+0 2+0 2+0 2+0 2+0 2+0 2+0 2+0 14+0 2+0 2+0 2+0 2+0 2+0 2+0 2+0 2+0 2+0
2+0 2+0 2+0 2+2 86+0 2+0 2+0 2+0 2+0 2+0 2+2 2+0 2+0 2+0 2+0 2+0 2+0 2+0 2+0 2+0 2+0 2+0
2+0 2+0 2+0 2+0 2+0 2+0 2+0 2+0 2+0 2+0 2+0 2+0 2+0 2+0 2+0 2+0 2+0 2+0 2+0 2+9 2+0 2+0 3+0
2+0 2+0 2+0 2+0 5+0 2+0 3+0 2+2 2+0 2+0 2+0 2+0 2+0 2+0 2+0 2+0 2+0 2+0 6+0 6+0 2+0 2+0 2+0
2+0 2+0 2+0 2+0 5+0 2+0 3+0 2+0 2+0 2+0 2+0 2+0 2+0 2+0 16+3 2+0 2+2 336+2a 2+d 7+4f 4f41+6
d+4 42a+19 4ce+27 89+23 9c+a 2+e 2+6 2+1 1c4+0 3+2 2+29 2+8 506+32 7e+15 b3b+1f 5581+1f
3c+18 6547+19 1b+6 2+11 1b+19 1b+3 2+0 2+6 2+a 1b+19 1b+19 1b+19 1b+19 1b+19 1b+19 1b+19
1b+19 1b+1b 1d+18 2+5 1b+18 2+5 1b+18 2+5 1b+18 2+5 1b+18 2+5 2+0 735+9 2+13 7+5 106+3d
8b5+21"

def uppercase : String := "41+19 66+16 2+6 22+0 2+0 2+0 2+0 2+0 2+0 2+0 2+0 2+0 2+0 2+0 2+0 2+0 2+0 2+0 2+0 2+0 2+0
2+0 2+0 2+0 2+0 2+0 2+0 2+0 2+0 2+0 2+0 3+0 2+0 2+0 2+0 2+0 2+0 2+0 2+0 3+0 2+0 2+0 2+0 2+0
2+0 2+0 2+0 2+0 2+0 2+0 2+0 2+0 2+0 2+0 2+0 2+0 2+0 2+0 2+0 2+0 2+0 2+0 2+1 2+0 2+0 4+1 2+0
2+1 2+2 3+3 2+1 2+2 4+1 2+1 2+0 2+0 2+1 2+0 3+0 2+1 2+2 2+0 2+1 4+0 8+0 3+0 3+0 3+0 2+0 2+0
2+0 2+0 2+0 2+0 2+0 3+0 2+0 2+0 2+0 2+0 2+0 2+0 2+0 2+0 3+0 3+0 2+2 2+0 2+0 2+0 2+0 2+0 2+0
2+0 2+0 2+0 2+0 2+0 2+0 2+0 2+0 2+0 2+0 2+0 2+0 2+0 2+0 2+0 2+0 2+0 2+0 2+0 2+0 2+0 2+0 2+0
8+1 2+1 3+0 2+3 2+0 2+0 2+0 2+0 122+0 2+0 4+0 9+0 7+0 2+2 2+0 2+1 2+10 2+8 24+0 3+2 4+0 2+0
2+0 2+0 2+0 2+0 2+0 2+0 2+0 2+0 2+0 2+0 6+0 3+0 2+1 3+32 31+0 2+0 2+0 2+0 2+0 2+0 2+0 2+0
2+0 2+0 2+0 2+0 2+0 2+0 2+0 2+0 2+0 a+0 2+0 2+0 2+0 2+0 2+0 2+0 2+0 2+0 2+0 2+0 2+0 2+0 2+0
2+0 2+0 2+0 2+0 2+0 2+0 2+0 2+0 2+0 2+0 2+0 2+0 2+0 2+1 2+0 2+0 2+0 2+0 2+0 2+0 3+0 2+0 2+0
2+0 2+0 2+0 2+0 2+0 2+0 2+0 2+0 2+0 2+0 2+0 2+0 2+0 2+0 2+0 2+0 2+0 2+0 2+0 2+0 2+0 2+0 2+0
2+0 2+0 2+0 2+0 2+0 2+0 2+0 2+0 2+0 2+0 2+0 2+0 2+0 2+0 2+0 2+0 2+0 2+0 2+0 2+0 2+0 2+0
3+25 b4a+25 2+0 6+0 2d3+55 894+0 7+2a 3+2 141+0 2+0 2+0 2+0 2+0 2+0 2+0 2+0 2+0 2+0 2+0 2+0
2+0 2+0 2+0 2+0 2+0 2+0 2+0 2+0 2+0 2+0 2+0 2+0 2+0 2+0 2+0 2+0 2+0 2+0 2+0 2+0 2+0 2+0 2+0
2+0 2+0 2+0 2+0 2+0 2+0 2+0 2+0 2+0 2+0 2+0 2+0 2+0 2+0 2+0 2+0 2+0 2+0 2+0 2+0 2+0 2+0 2+0
2+0 2+0 2+0 2+0 2+0 2+0 2+0 2+0 2+0 2+0 2+0 2+0 2+0 2+0 2+0 2+0 2+0 a+0 2+0 2+0 2+0 2+0 2+0
2+0 2+0 2+0 2+0 2+0 2+0 2+0 2+0 2+0 2+0 2+0 2+0 2+0 2+0 2+0 2+0 2+0 2+0 2+0 2+0 2+0 2+0 2+0
2+0 2+0 2+0 2+0 2+0 2+0 2+0 2+0 2+0 2+0 2+0 2+0 2+0 2+0 2+0 2+0 2+0 2+0 2+0 2+0 a+7 9+5 b+7
9+7 9+5 c+0 2+0 2+0 2+0 9+7 49+3 d+3 d+3 d+4 c+3 107+0 5+0 4+2 3+2 3+0 4+4 7+0 2+0 2+0 2+3
3+3 b+1 6+0 1b+f 14+0 333+19 731+2f 31+0 2+2 3+0 2+0 2+0 2+3 2+0 3+0 9+2 2+0 2+0 2+0 2+0
2+0 2+0 2+0 2+0 2+0 2+0 2+0 2+0 2+0 2+0 2+0 2+0 2+0 2+0 2+0 2+0 2+0 2+0 2+0 2+0 2+0 2+0 2+0
2+0 2+0 2+0 2+0 2+0 2+0 2+0 2+0 2+0 2+0 2+0 2+0 2+0 2+0 2+0 2+0 2+0 2+0 2+0 2+0 2+0 2+0 9+0
2+0 5+0 794e+0 2+0 2+0 2+0 2+0 2+0 2+0 2+0 2+0 2+0 2+0 2+0 2+0 2+0 2+0 2+0 2+0 2+0 2+0 2+0
2+0 2+0 2+0 14+0 2+0 2+0 2+0 2+0 2+0 2+0 2+0 2+0 2+0 2+0 2+0 2+0 2+0 88+0 2+0 2+0 2+0 2+0
2+0 2+0 4+0 2+0 2+0 2+0 2+0 2+0 2+0 2+0 2+0 2+0 2+0 2+0 2+0 2+0 2+0 2+0 2+0 2+0 2+0 2+0 2+0
2+0 2+0 2+0 2+0 2+0 2+0 2+0 2+0 2+0 2+0 b+0 2+0 2+1 2+0 2+0 2+0 2+0 5+0 2+0 3+0 2+0 4+0 2+0
2+0 2+0 2+0 2+0 2+0 2+0 2+0 2+0 2+4 2+4 2+0 2+0 2+0 2+0 2+0 2+0 2+0 2+3 2+0 2+1 2+0 2+0 2+0
2+0 2+0 2+0 2+0 2+0 19+0 572c+19 4c6+27 89+23 9d+a 2+e 2+6 2+1 6eb+32 9e+15 b3b+1f 5581+1f
41+18 6548+19 1b+19 1b+19 1b+0 2+1 3+0 3+1 3+3 2+7 1b+19 1b+1 2+3 3+7 2+6 1c+1 2+3 2+4 2+0
4+6 1c+19 1b+19 1b+19 1b+19 1b+19 1b+19 1f+18 22+18 22+18 22+18 22+18 22+0 1136+21 80f+19
7+19 7+19"

def caseFolds : String := "41/1a/1+20 b5/1/1+307 c0/17/1+20 d8/7/1+20 100/18/2+1 132/3/2+1 139/8/2+1 14a/17/2+1
178/1/1-79 179/3/2+1 17f/1/1-10c 181/1/1+d2 182/2/2+1 186/1/1+ce 187/1/1+1 189/2/1+cd
18b/1/1+1 18e/1/1+4f 18f/1/1+ca 190/1/1+cb 191/1/1+1 193/1/1+cd 194/1/1+cf 196/1/1+d3
197/1/1+d1 198/1/1+1 19c/1/1+d3 19d/1/1+d5 19f/1/1+d6 1a0/3/2+1 1a6/1/1+da 1a7/1/1+1
1a9/1/1+da 1ac/1/1+1 1ae/1/1+da 1af/1/1+1 1b1/2/1+d9 1b3/2/2+1 1b7/1/1+db 1b8/1/1+1
1bc/1/1+1 1c4/1/1+2 1c5/1/1+1 1c7/1/1+2 1c8/1/1+1 1ca/1/1+2 1cb/9/2+1 1de/9/2+1 1f1/1/1+2
1f2/2/2+1 1f6/1/1-61 1f7/1/1-38 1f8/14/2+1 220/1/1-82 222/9/2+1 23a/1/1+2a2b 23b/1/1+1
23d/1/1-a3 23e/1/1+2a28 241/1/1+1 243/1/1-c3 244/1/1+45 245/1/1+47 246/5/2+1 345/1/1+74
370/2/2+1 376/1/1+1 37f/1/1+74 386/1/1+26 388/3/1+25 38c/1/1+40 38e/2/1+3f 391/11/1+20
3a3/9/1+20 3c2/1/1+1 3cf/1/1+8 3d0/1/1-1e 3d1/1/1-19 3d5/1/1-f 3d6/1/1-16 3d8/c/2+1
3f0/1/1-36 3f1/1/1-30 3f4/1/1-3c 3f5/1/1-40 3f7/1/1+1 3f9/1/1-7 3fa/1/1+1 3fd/3/1-82
400/10/1+50 410/20/1+20 460/11/2+1 48a/1b/2+1 4c0/1/1+f 4c1/7/2+1 4d0/30/2+1 531/26/1+30
10a0/26/1+1c60 10c7/1/1+1c60 10cd/1/1+1c60 13f8/6/1-8 1c80/1/1-184e 1c81/1/1-184d
1c82/1/1-1844 1c83/2/1-1842 1c85/1/1-1843 1c86/1/1-183c 1c87/1/1-1824 1c88/1/1+89c3
1c90/2b/1-bc0 1cbd/3/1-bc0 1e00/4b/2+1 1e9b/1/1-3a 1e9e/1/1-1dbf 1ea0/30/2+1 1f08/8/1-8
1f18/6/1-8 1f28/8/1-8 1f38/8/1-8 1f48/6/1-8 1f59/4/2-8 1f68/8/1-8 1f88/8/1-8 1f98/8/1-8
1fa8/8/1-8 1fb8/2/1-8 1fba/2/1-4a 1fbc/1/1-9 1fbe/1/1-1c05 1fc8/4/1-56 1fcc/1/1-9
1fd8/2/1-8 1fda/2/1-64 1fe8/2/1-8 1fea/2/1-70 1fec/1/1-7 1ff8/2/1-80 1ffa/2/1-7e 1ffc/1/1-9
2126/1/1-1d5d 212a/1/1-20bf 212b/1/1-2046 2132/1/1+1c 2160/10/1+10 2183/1/1+1 24b6/1a/1+1a
2c00/30/1+30 2c60/1/1+1 2c62/1/1-29f7 2c63/1/1-ee6 2c64/1/1-29e7 2c67/3/2+1 2c6d/1/1-2a1c
2c6e/1/1-29fd 2c6f/1/1-2a1f 2c70/1/1-2a1e 2c72/1/1+1 2c75/1/1+1 2c7e/2/1-2a3f 2c80/32/2+1
2ceb/2/2+1 2cf2/1/1+1 a640/17/2+1 a680/e/2+1 a722/7/2+1 a732/1f/2+1 a779/2/2+1
a77d/1/1-8a04 a77e/5/2+1 a78b/1/1+1 a78d/1/1-a528 a790/2/2+1 a796/a/2+1 a7aa/1/1-a544
a7ab/1/1-a54f a7ac/1/1-a54b a7ad/1/1-a541 a7ae/1/1-a544 a7b0/1/1-a512 a7b1/1/1-a52a
a7b2/1/1-a515 a7b3/1/1+3a0 a7b4/8/2+1 a7c4/1/1-30 a7c5/1/1-a543 a7c6/1/1-8a38 a7c7/2/2+1
a7d0/1/1+1 a7d6/2/2+1 a7f5/1/1+1 ab70/50/1-97d0 ff21/1a/1+20 10400/28/1+28 104b0/24/1+28
10570/b/1+27 1057c/f/1+27 1058c/7/1+27 10594/2/1+27 10c80/33/1+40 118a0/20/1+20
16e40/20/1+20 1e900/22/1+22"

end Checkup.Pattern.CharTable
